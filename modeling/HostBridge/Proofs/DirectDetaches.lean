import HostBridge.Proofs.RetainedHandles

/-!
# Handles that were detached by themselves

What a thread is told and given goes by the handle that it retains. If the handle is detached by itself, the thread
retains one that is dead: it is told that it has a handle, is given it again and again, and fails when it is told to
detach.
-/

namespace HostBridge

variable {ω : Type}

namespace State

variable {s s' : State ω} {t : ThreadId} {id : HandleId}

/-- The thread was not told to detach in between. -/
def Untold (s : State ω) (t : ThreadId) (s' : State ω) : Prop :=
  ∃ later, s'.journal = later ++ s.journal ∧ ∀ e ∈ later, e.forgets t = false

/-- A handle is retained until its thread is told to detach. -/
theorem Retains.lasts (retains : s.Retains t id) (owns : s'.Owns t id) (untold : s.Untold t s') :
    s'.Retains t id := by
  obtain ⟨later, grown, kept⟩ := untold
  have all : ∀ e ∈ later, (!e.forgets t) = true := by
    intro e he
    rw [kept e he, Bool.not_false]
  refine ⟨owns, ?_⟩
  rw [sinceDetach, grown, List.takeWhile_append_of_pos all]
  exact List.mem_append_right later retains.2

/-- A handle that is detached stays so. -/
theorem Detached.grows (detached : s.Detached id) (grows : s.Grows s') : s'.Detached id := by
  obtain ⟨h, found, already⟩ := detached
  obtain ⟨h', found', -, -, still⟩ := grows.handles id h found
  exact ⟨h', found', still already⟩

private theorem Owns.live (owns : s.Owns t id) (attached : ¬ s.Detached id) : s.Live t id := by
  obtain ⟨h, found, rfl⟩ := owns
  exact (live_iff_not_detached found).mpr attached

/-- What a thread is told and given goes by the handle that it retains. It is told that it has one, and given
it, whether it was detached or not. Through a live one it reaches its backend, and when it is told to detach it
fails with a fault of its backend only. A detached one is refused whatever is done, and the thread fails when it
is told to detach, but is rid of it. A thread that retains nothing has nothing to detach, and is given a handle
that is live. -/
structure GoesByRetained (program : HostProgram ω) (level : Nat) (s : State ω) : Prop where
  unique : ∀ t id id', s.Retains t id → s.Retains t id' → id = id'
  told : ∀ t, ∃ b, Action.hasRuntime.runOn t s = (.ok b, s) ∧ (b = true ↔ ∃ id, s.Retains t id)
  given : ∀ t id, s.Retains t id → (Action.currentRuntime (program.host level)).runOn t s = (.ok id, s)
  usable : ∀ t id, s.Retains t id → ¬ s.Detached id → ∀ op : Operation, op.through? = some id →
    s.Crosses t id ((op.run (program.host level)).runOn t s).2
  refused : ∀ t id, s.Retains t id → s.Detached id → ∀ op : Operation, op.through? = some id →
    (op.run (program.host level)).runOn t s = (.error Action.detachedBefore, s)
  released : ∀ t id, s.Retains t id → ¬ s.Detached id → ∀ result s',
    (Action.detachRuntime (program.host level)).runOn t s = (result, s') →
    result = .ok true ∨ ∃ fault c, result = .error fault ∧ c.thread = t ∧ c.call.isDetach = true ∧
      c.through? = some id ∧ s'.journal.head? = some (.returned c (some fault))
  stuck : ∀ t id, s.Retains t id → s.Detached id →
    (Action.detachRuntime (program.host level)).runOn t s =
      (.error Action.detachedBefore, (s.setAttachment t .none).noting (.forgotten t))
  idle : ∀ t, (∀ id, ¬ s.Retains t id) →
    ((Action.detachRuntime (program.host level)).runOn t s).1 = .ok false
  attached : ∀ t id s', (∀ id, ¬ s.Retains t id) →
    (Action.currentRuntime (program.host level)).runOn t s = (.ok id, s') →
    s'.Retains t id ∧ ¬ s'.Detached id

end State

namespace Action

variable {level : Nat} {t : ThreadId} {id : HandleId} {s s' : State ω}

private theorem runOn_checked_of_detached (detached : s.Detached id) (t : ThreadId) :
    (checked id).runOn t s = (.error detachedBefore, s) := by
  obtain ⟨h, found, already⟩ := detached
  simp [checked, found, already]

private theorem runOn_detachRuntime_of_live (program : HostProgram ω) (level : Nat) (live : s.Live t id)
    (cached : (s.attachments t).handle? = some id) {result : Except Fault Bool}
    (came : (detachRuntime (program.host level)).runOn t s = (result, s')) :
    result = .ok true ∨ ∃ fault c, result = .error fault ∧ c.thread = t ∧ c.call.isDetach = true ∧
      c.through? = some id ∧ s'.journal.head? = some (.returned c (some fault)) := by
  obtain ⟨h, found, owner, attached⟩ := live
  rw [program.host_eq_serve, runOn_detachRuntime_of_handle _ cached] at came
  have passed : (checked id).runOn t ((s.setAttachment t { s.attachments t with
      handle? := none, failure? := none }).noting (.forgotten t)) = (.ok h.backend, _) :=
    runOn_checked_of_live found attached owner
  obtain ⟨served, e, -, ran⟩ := program.runOn_serve_keeps level (Abides.answers program level)
    (some id) h.backend .detach t _ (Reply.uses_any _)
  cases served with
  | ok v =>
    obtain ⟨l, ended⟩ := runOn_detachHandle_ok passed ran
    rw [ended] at came
    cases came
    exact .inl rfl
  | error fault =>
    rw [runOn_detachHandle_of_failed passed ran] at came
    cases came
    exact .inr ⟨fault, _, rfl, rfl, rfl, rfl, rfl⟩

/-- A handle that was detached without a fault is detached. -/
theorem detached_of_runOn_detachHandle (program : HostProgram ω) (level : Nat)
    (came : (detachHandle (program.host level) id).runOn t s = (.ok (), s')) : s'.Detached id := by
  rw [program.host_eq_serve] at came
  have same := state_of_runOn_checked id t s
  cases passed : (checked id).runOn t s with
  | mk result s₁ =>
  rw [passed] at same
  subst same
  cases result with
  | error fault =>
    rw [runOn_detachHandle_error _ passed] at came
    cases came
  | ok b =>
    obtain ⟨-, h, found, -, -, rfl⟩ := live_of_runOn_checked passed
    obtain ⟨served, e, worked, ran⟩ := program.runOn_serve_keeps level (Abides.answers program level)
      (some id) h.backend .detach t s₁ (Reply.uses_any _)
    cases served with
    | error fault =>
      rw [runOn_detachHandle_of_failed passed ran] at came
      cases came
    | ok v =>
      obtain ⟨l, ended⟩ := runOn_detachHandle_ok passed ran
      rw [ended] at came
      cases came
      obtain ⟨h', found', -⟩ := worked.grows.handles id h found
      exact (State.detached_closing (s := e.noting _) found' id).mpr (.inl rfl)

private theorem retains_of_runOn_currentRuntime (program : HostProgram ω) (level : Nat) (caches : s.Caches)
    (nothing : ∀ id, ¬ s.Retains t id) (came : (currentRuntime (program.host level)).runOn t s = (.ok id, s')) :
    s'.Retains t id ∧ ¬ s'.Detached id := by
  have handle := caches.uncached nothing
  rcases (s.attachments t).cases with ⟨id, present⟩ | ⟨-, fault, failure⟩ | busy | none
  · rw [handle] at present
    cases present
  · rw [runOn_currentRuntime_of_failure _ handle failure] at came
    cases came
  · rw [runOn_currentRuntime_of_busy _ busy] at came
    cases came
  · rw [program.host_eq_serve, runOn_currentRuntime_of_none _ none] at came
    obtain ⟨b, begun⟩ := runOn_beginAttach none
    obtain ⟨served, e, worked, ran⟩ := program.runOn_serve_keeps level (Abides.answers program level)
      .none b .attach t { s.setAttachment t .busy with installed? := some b } (Reply.uses_any _)
    have busy : e.attachments t = .busy := by
      apply worked.attending
      exact s.attachments_setAttachment_self t .busy
    cases served with
    | error reason =>
      obtain ⟨l, ended⟩ := runOn_attachThread_error begun ran busy
      rw [ended] at came
      cases came
    | ok v =>
      obtain ⟨l, ended⟩ := runOn_attachThread_ok begun ran busy
      rw [ended] at came
      cases came
      have opened := (e.noting (.returned ⟨t, b, .attach, .none, level⟩ .none)).retains_opening b t t
        ⟨e.handles.length⟩
      refine ⟨opened.mpr (.inr ⟨rfl, rfl⟩), fun detached => ?_⟩
      exact (Tracks.opened_new e t).2 ((e.detached_opening b t _).mp detached)

end Action

namespace State

variable {s : State ω}

/-- What threads are told and given goes by what they retain, if what is cached does. -/
theorem Caches.goesByRetained (h : s.Caches) (program : HostProgram ω) (level : Nat) :
    s.GoesByRetained program level where
  unique _ _ _ retains retains' := h.unique retains retains'
  told t := by
    refine ⟨(s.attachments t).handle?.isSome, by simp [Action.hasRuntime, Except.map], ?_⟩
    rw [Option.isSome_iff_exists]
    exact exists_congr (h.cached t)
  given t id retains := Action.runOn_currentRuntime_of_handle _ ((h.cached t id).mpr retains)
  usable t id retains attached op through :=
    Operation.crosses_of_live program level through (retains.1.live attached)
  refused t id _ detached op through :=
    op.runOn_of_checked_error _ through (Action.runOn_checked_of_detached detached t)
  released t id retains attached result s' came :=
    Action.runOn_detachRuntime_of_live program level (retains.1.live attached) ((h.cached t id).mpr retains) came
  stuck t id retains detached := by
    have rest : { s.attachments t with handle? := none, failure? := none } = Attachment.none := by
      dsimp only
      rw [h.not_attaching retains]
      rfl
    have still : ((s.setAttachment t .none).noting (.forgotten t)).Detached id := detached
    rw [Action.runOn_detachRuntime_of_handle _ ((h.cached t id).mpr retains), rest,
      Action.runOn_detachHandle_error _ (Action.runOn_checked_of_detached still t)]
    rfl
  idle t nothing := by rw [Action.runOn_detachRuntime_of_none _ (h.uncached nothing)]
  attached t id s' nothing came := Action.retains_of_runOn_currentRuntime program level h nothing came

end State

/-- What a thread is told and given goes by the handle that it retains, wherever threads and hosts come to. A
handle that is detached by itself, in order, is dead, and nothing tells its thread so: the thread retains it in
all that comes later, until it is told to detach. Where handles are not detached by themselves, those that are
retained are alive. -/
theorem directly_detached_handle_is_retained (program : HostProgram ω) (limit : Nat) (store : Config.Store)
    (world : ω) :
    (∀ s, (program.host limit).Reaches Operation.Any (.initial store world) s →
      ∀ level, s.GoesByRetained program level) ∧
    (∀ level through? b call u (s : State ω), s.Caches →
      (program s.view u b call s.world).Throughout (program.answers level) u
        (fun e => e.Caches ∧ ∀ level, e.GoesByRetained program level)
        (s.noting (.called ⟨u, b, call, through?, level⟩))) ∧
    (∀ level t id (s s' : State ω), s.Retains t id →
      (Action.detachHandle (program.host level) id).runOn t s = (.ok (), s') →
      ∀ s'', (program.host limit).Reaches Operation.Any s' s'' →
        s''.Detached id ∧ (s.Untold t s'' → s''.Retains t id)) ∧
    (program.Uses Operation.SparesHandles →
      ∀ s, (program.host limit).Reaches Operation.SparesHandles (.initial store world) s → s.Alive) := by
  have uses : program.Uses Operation.Any := fun _ _ _ _ _ => Reply.uses_any _
  have tracks (level : Nat) : (program.host level).KeepsTo Operation.Any (Tracks True) :=
    Tracks.host uses (fun _ _ => trivial) level
  refine ⟨fun s reached level => ?_, fun level through? b call u s caches => ?_, ?_, fun spares s reached => ?_⟩
  · have caches := ((tracks limit).reaches reached).caches (.initial store world)
    exact caches.goesByRetained program level
  · have called : Tracks True s (s.noting (.called ⟨u, b, call, through?, level⟩)) :=
      .noting s nofun fun _ => rfl
    refine Reply.Throughout.mono (fun e h => ⟨h, h.goesByRetained program⟩) ?_
    exact Reply.throughout_of_keeps (Tracks.answers uses (fun _ _ => trivial) level)
      (fun _ _ tracks => tracks.caches) _ (Reply.uses_any _) (called.caches caches)
  · intro level t id s s' retains came s'' onward
    have first := (tracks level).detachHandle id trivial t s
    rw [came] at first
    have owns := ((tracks limit).reaches onward).owns t id (first.owns t id retains.1)
    have detached := Action.detached_of_runOn_detachHandle program level came
    exact ⟨detached.grows ((Abides.host program limit).reaches onward).grows, retains.lasts owns⟩
  · have keeps : (program.host limit).KeepsTo Operation.SparesHandles (Tracks False) :=
      Tracks.host spares (fun _ spared => spared) limit
    refine (keeps.reaches reached).alive not_false fun t id retains => ?_
    have cached := ((State.Caches.initial store world).cached t id).mpr retains
    cases cached

/-- The main thread has attached to the obliging host. -/
def heldRun : State Unit :=
  ((Operation.currentRuntime.run (obligingHost.host nestingLimit)).runOn .main
    (.initial (.ofSettings .nil []) ())).2

/-- The main thread has detached its handle by itself. -/
def deadRun : State Unit :=
  ((Operation.detachHandle ⟨0⟩).run (obligingHost.host nestingLimit)).runOn .main heldRun |>.2

/-- The main thread is told that it has a handle, is given a dead one, and fails when it is told to detach. -/
theorem directly_detached_handle_is_retained_obliging :
    deadRun.Retains .main ⟨0⟩ ∧ deadRun.Detached ⟨0⟩ ∧
      Action.hasRuntime.runOn .main deadRun = (.ok true, deadRun) ∧
      (Action.currentRuntime (obligingHost.host nestingLimit)).runOn .main deadRun = (.ok ⟨0⟩, deadRun) ∧
      ((Operation.box ⟨0⟩ .nil).run (obligingHost.host nestingLimit)).runOn .main deadRun =
        (.error Action.detachedBefore, deadRun) ∧
      ((Action.detachRuntime (obligingHost.host nestingLimit)).runOn .main deadRun).1 =
        .error Action.detachedBefore := by
  have uses : Client.Uses Operation.Any (.perform .currentRuntime fun _ =>
      .perform (.detachHandle ⟨0⟩) .finish) := ⟨trivial, fun _ => ⟨trivial, fun _ => trivial⟩⟩
  have reached : (obligingHost.host nestingLimit).Reaches Operation.Any
      (.initial (.ofSettings .nil []) ()) deadRun :=
    .turn (t := .main) .start uses (.performed (Prod.eta _).symm (.performed (Prod.eta _).symm .here))
  obtain ⟨everywhere, -, dead, -⟩ :=
    directly_detached_handle_is_retained obligingHost nestingLimit (.ofSettings .nil []) ()
  have held : heldRun.Retains .main ⟨0⟩ := ⟨⟨⟨defaultBackend, .main, false⟩, rfl, rfl⟩, .head _⟩
  obtain ⟨detached, retained⟩ := dead nestingLimit .main ⟨0⟩ heldRun deadRun held rfl deadRun .start
  have untold : heldRun.Untold .main deadRun :=
    ⟨[.returned ⟨.main, defaultBackend, .detach, some ⟨0⟩, nestingLimit⟩ none,
      .called ⟨.main, defaultBackend, .detach, some ⟨0⟩, nestingLimit⟩], rfl, by simp [Event.forgets]⟩
  have retains := retained untold
  have goes := everywhere deadRun reached nestingLimit
  obtain ⟨b, asked, told⟩ := goes.told .main
  obtain rfl := told.mpr ⟨_, retains⟩
  refine ⟨retains, detached, asked, goes.given .main ⟨0⟩ retains, ?_, ?_⟩
  · exact goes.refused .main ⟨0⟩ retains detached (.box ⟨0⟩ .nil) rfl
  · rw [goes.stuck .main ⟨0⟩ retains detached]

end HostBridge
