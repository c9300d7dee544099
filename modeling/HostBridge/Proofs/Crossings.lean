import HostBridge.Proofs.HeldHandles
import HostBridge.Proofs.Hosting

/-!
# Discipline at the border

Whatever callers, hosts and other threads do, every call that needs a handle reaches a backend through one
that this very backend attached on the calling thread and that has not been detached since. A handle that
was detached, or that belongs to another thread, makes no call at all, and no handle ever changes its
backend.
-/

namespace HostBridge

variable {ω : Type}

/-- Handles and journal grow, and soundness is kept. -/
def Proceeds (direct : Prop) (s s' : State ω) : Prop :=
  s.Grows s' ∧ (s.Sound direct → s'.Sound direct)

namespace Proceeds

open HostBridge.Action (Keeps)

variable {direct : Prop} {s s' : State ω}

private theorem of_eq (handles : s'.handles = s.handles) (journal : s'.journal = s.journal) :
    Proceeds direct s s' :=
  ⟨.of_eq handles (journal ▸ List.suffix_rfl), fun h => h.of_eq handles journal⟩

private theorem trans {s'' : State ω} (first : Proceeds direct s s') (second : Proceeds direct s' s'') :
    Proceeds direct s s'' :=
  ⟨first.1.trans second.1, fun h => second.2 (first.2 h)⟩

instance : Course (Proceeds (ω := ω) direct) where
  silent silent := of_eq silent.handles silent.journal
  trans := trans

private theorem noting (s : State ω) {e : Event} (kept : ∀ id, e.detaches id = false)
    (free : ∀ c, e = .called c → c.call.isPrimitive = false) : Proceeds direct s (s.noting e) := by
  refine ⟨.of_eq rfl (List.suffix_cons e _), fun h => h.noting kept fun c called primitive => ?_⟩
  rw [free c called] at primitive
  cases primitive

private theorem updateAttachment (f : Attachment → Attachment) :
    Keeps (Proceeds direct) (Action.updateAttachment (ω := ω) f) := fun _ _ => of_eq rfl rfl

variable {program : HostProgram ω} {answer : Request → Action ω Value} {level : Nat}

private theorem attachThrough (answers : Answers Operation.Any (Proceeds direct) answer) (b : BackendId) :
    Keeps (Proceeds direct) (Action.attachThrough (program.serve answer level) b) := by
  intro t s
  obtain ⟨result, e, worked, served⟩ := program.runOn_serve_keeps level answers none b .attach t s
    (Reply.uses_any _)
  have called : Proceeds direct s (s.noting (.called ⟨t, b, .attach, none, level⟩)) := by
    refine noting s (fun _ => rfl) ?_
    rintro c same
    cases same
    rfl
  have returned (fault? : Option Fault) :
      Proceeds direct e (e.noting (.returned ⟨t, b, .attach, none, level⟩ fault?)) :=
    noting e (fun _ => rfl) fun _ same => by cases same
  cases result with
  | error reason =>
    rw [Action.runOn_attachThrough_error served]
    exact (called.trans worked).trans (returned (some reason))
  | ok v =>
    obtain ⟨l, ran⟩ := Action.runOn_attachThrough_ok served
    rw [ran]
    refine ((called.trans worked).trans (returned none)).trans ?_
    refine trans ⟨State.grows_opening _ b t _, fun h => h.opening rfl rfl⟩ (of_eq rfl rfl)

private theorem detachHandle (lines : TakesLines answer) (detaches : program.DetachesDirectly)
    (id : HandleId) :
    Keeps (Proceeds direct) (Action.detachHandle (program.serve answer level) id) := by
  intro t s
  have same := Action.state_of_runOn_checked id t s
  cases passed : (Action.checked id).runOn t s with
  | mk result s' =>
  rw [passed] at same
  subst same
  cases result with
  | error fault =>
    rw [Action.runOn_detachHandle_error _ passed]
    exact Course.refl s'
  | ok b =>
    obtain ⟨-, h, found, live, own, rfl⟩ := Action.live_of_runOn_checked passed
    obtain ⟨result, w, l, ⟨v, rfl⟩, served⟩ := program.runOn_serve_of_direct level lines
      (some id) (s := s') (detaches s'.view t h.backend s'.world)
    obtain ⟨l', ran⟩ := Action.runOn_detachHandle_ok passed served
    rw [ran]
    have closes : Proceeds direct s' (((s'.noting (.called ⟨t, h.backend, .detach, some id, level⟩)).noting
        (.returned ⟨t, h.backend, .detach, some id, level⟩ none)).closing id) :=
      ⟨s'.grows_closing_noting _ _ id, fun sound => sound.closing rfl rfl⟩
    exact closes.trans (of_eq rfl rfl)

private theorem serve (answers : Answers Operation.Any (Proceeds direct) answer) {id : HandleId} {call : Call}
    (primitive : call.isPrimitive = true) {t : ThreadId} {b : BackendId} {s₀ s : State ω}
    (before : Proceeds direct s₀ s)
    (grounded : s₀.Sound direct →
      Crossing.Grounded direct s s.journal ⟨t, b, call, some id, level⟩) :
    Proceeds direct s₀ ((program.serve answer level (some id) b call).runOn t s).2 := by
  obtain ⟨result, e, worked, served⟩ := program.runOn_serve_keeps level answers (some id) b call t s
    (Reply.uses_any _)
  rw [served]
  have called : Proceeds direct s₀ (s.noting (.called ⟨t, b, call, some id, level⟩)) := by
    refine ⟨before.1.trans (.of_eq rfl (List.suffix_cons _ _)), fun h => ?_⟩
    refine (before.2 h).noting (fun other => ?_) ?_
    · cases detach : call.isDetach with
      | true =>
        rw [Call.isPrimitive_of_isDetach detach] at primitive
        cases primitive
      | false => simp [Event.detaches, detach]
    · rintro c same -
      cases same
      exact grounded h
  refine (called.trans worked).trans (noting e (fun _ => rfl) ?_)
  rintro c same
  cases same

private theorem grounded_of_live {s : State ω} {id : HandleId} {h : Handle} {t : ThreadId} {call : Call}
    (found : s.handles[id.index]? = some h) (live : h.detached = false) (own : h.owner = t)
    (sound : s.Sound direct) :
    Crossing.Grounded direct s s.journal ⟨t, h.backend, call, some id, level⟩ := by
  subst own
  exact ⟨id, h, rfl, found, rfl, rfl, .inl (sound.held id h found live)⟩

private theorem cross (answers : Answers Operation.Any (Proceeds direct) answer) (id : HandleId) {call : Call}
    (primitive : call.isPrimitive = true) :
    Keeps (Proceeds direct) (Action.cross (program.serve answer level) id call) := by
  intro t s
  refine Keeps.of_checked fun h found live own => ?_
  exact serve answers primitive (Course.refl s) (grounded_of_live found live own)

/-- The handle of a static call is still held when its class has been looked up, or the lookup has called
back to detach it. -/
theorem grounded_of_lookUp {s e : State ω} {id : HandleId} {h : Handle} {t : ThreadId} {name : Value}
    {target : Value} {method : String} {args : List Value} (indirect : ¬ direct)
    (found : s.handles[id.index]? = some h) (live : h.detached = false) (own : h.owner = t)
    (sound : s.Sound direct)
    (worked : (s.noting (.called ⟨t, h.backend, .staticClass name, some id, level⟩)).Grows e) :
    Crossing.Grounded direct (e.noting (.returned ⟨t, h.backend, .staticClass name, some id, level⟩ none))
      (.returned ⟨t, h.backend, .staticClass name, some id, level⟩ none :: e.journal)
      ⟨t, h.backend, .invoke target method args, some id, level⟩ := by
  subst own
  obtain ⟨h', found', owner', backend', -⟩ := worked.handles id h found
  obtain ⟨within, split⟩ := worked.journal
  have held := sound.held id h found live
  have noted : Held (.called ⟨h.owner, h.backend, .staticClass name, some id, level⟩ :: s.journal) id
      h.owner h.backend := held.cons rfl
  refine ⟨id, h', rfl, found', owner', backend', ?_⟩
  by_cases lost : ∃ e ∈ within, e.detaches id = true
  · right
    refine ⟨indirect, ⟨target, method, args, rfl⟩,
      ⟨h.owner, h.backend, .staticClass name, some id, level⟩, within, s.journal, ?_, ⟨name, rfl⟩,
      rfl, rfl, rfl, held, lost⟩
    rw [← split]
    rfl
  · left
    have kept : ∀ e ∈ within, e.detaches id = false := by
      intro e he
      cases detaches : e.detaches id with
      | false => rfl
      | true => exact (lost ⟨e, he, detaches⟩).elim
    rw [← split]
    exact (noted.append kept).cons rfl

private theorem invokeStatic (answers : Answers Operation.Any (Proceeds program.FindsDirectly) answer)
    (id : HandleId) (className : Value) (method : String) (args : List Value) :
    Keeps (Proceeds program.FindsDirectly)
      (Action.invokeStatic (program.serve answer level) id className method args) := by
  intro t s
  refine Keeps.of_checked fun h found live own => ?_
  have first : Proceeds program.FindsDirectly s
      ((program.serve answer level (some id) h.backend (.staticClass className)).runOn t s).2 :=
    serve answers rfl (Course.refl s) (grounded_of_live found live own)
  by_cases direct : program.FindsDirectly
  · -- The lookup leaves the handles, so the handle is live for the method call too.
    obtain ⟨result, w, l, -, served⟩ := program.runOn_serve_of_direct level answers.lines
      (some id) (direct s.view t h.backend className s.world)
    rw [served] at first
    rw [Action.runOn_bind, served]
    cases result with
    | error fault => exact first
    | ok target =>
      refine serve answers rfl first fun sound => ?_
      exact grounded_of_live found live own (first.2 sound)
  · obtain ⟨result, e, worked, served⟩ := program.runOn_serve_keeps level answers (some id) h.backend
      (.staticClass className) t s (Reply.uses_any _)
    rw [served] at first
    rw [Action.runOn_bind, served]
    cases result with
    | error fault => exact first
    | ok target =>
      refine serve answers rfl first fun sound => ?_
      exact grounded_of_lookUp direct found live own sound worked.1

/-- Everything at the border proceeds, whatever the program does but to detach directly. -/
theorem keepsTo (detaches : program.DetachesDirectly)
    (answers : Answers Operation.Any (Proceeds program.FindsDirectly) answer) :
    (program.serve answer level).KeepsTo Operation.Any (Proceeds program.FindsDirectly) where
  currentRuntime := Keeps.currentRuntime updateAttachment (attachThrough answers)
  detachRuntime := by
    refine Keeps.detachRuntime (fun t s => ?_) (detachHandle answers.lines detaches)
    have forgot : Proceeds program.FindsDirectly s
        (s.setAttachment t { s.attachments t with handle? := none, failure? := none }) := of_eq rfl rfl
    refine Course.trans forgot (noting _ (fun _ => rfl) fun _ same => ?_)
    cases same
  cross id call primitive := cross answers id primitive
  invokeStatic := invokeStatic answers
  detachHandle id _ := detachHandle answers.lines detaches id

end Proceeds

/-- The handle that an operation is carried out through, if it names one. -/
def Operation.through? : Operation → Option HandleId
  | .staticClass rt _ | .invokeStatic rt .. | .readField rt .. | .invokeMethod rt .. | .box rt _
  | .unbox rt _ | .detachHandle rt => some rt
  | _ => none

/-- A handle that fails the check is refused, whatever is done through it. -/
theorem Operation.runOn_of_checked_error (host : Host ω) {op : Operation} {id : HandleId} {t : ThreadId}
    {s : State ω} {fault : Fault} (through : op.through? = some id)
    (failed : (Action.checked id).runOn t s = (.error fault, s)) :
    (op.run host).runOn t s = (.error fault, s) := by
  cases op with
  | staticClass rt name =>
    cases through
    exact Action.runOn_cross_error host _ failed
  | invokeStatic rt className method args =>
    cases through
    simp [run, Action.invokeStatic, failed]
  | readField rt target name =>
    cases through
    exact Action.runOn_cross_error host _ failed
  | invokeMethod rt target method args =>
    cases through
    exact Action.runOn_cross_error host _ failed
  | box rt v =>
    cases through
    exact Action.runOn_cross_error host _ failed
  | unbox rt ref =>
    cases through
    exact Action.runOn_cross_error host _ failed
  | detachHandle rt =>
    cases through
    simp [run, Action.runOn_detachHandle_error host failed, Except.map]
  | _ => cases through

/-- A handle that is detached or another thread's is refused, whatever is done through it. -/
theorem Operation.runOn_of_stale (host : Host ω) {op : Operation} {id : HandleId} {h : Handle}
    {t : ThreadId} {s : State ω} (through : op.through? = some id)
    (found : s.handles[id.index]? = some h) (stale : h.detached = true ∨ h.owner ≠ t) :
    ∃ message, (op.run host).runOn t s = (.error (.plain .bridge message), s) := by
  obtain ⟨message, failed⟩ := Action.runOn_checked_of_stale found stale
  exact ⟨message, op.runOn_of_checked_error host through failed⟩

/-- The discipline at the border, in every state that threads reach by taking turns with a program that
detaches directly: all calls that needed a handle are grounded, a stale or foreign handle is refused
without a call or any other change, and handles keep their backend over all that happens later. -/
theorem calls_go_through_held_handles (program : HostProgram ω)
    (detaches : program.DetachesDirectly) (limit : Nat) (store : Config.Store) (world : ω)
    (s : State ω) (reached : (program.host limit).Reaches Operation.Any (.initial store world) s) :
    Grounds program.FindsDirectly s s.journal ∧
    (∀ (id : HandleId) h t (op : Operation), s.handles[id.index]? = some h →
      h.detached = true ∨ h.owner ≠ t → op.through? = some id →
      ∃ message, (op.run (program.host limit)).runOn t s = (.error (.plain .bridge message), s)) ∧
    ∀ s', (program.host limit).Reaches Operation.Any s s' →
      ∀ (id : HandleId) h, s.handles[id.index]? = some h →
        ∃ h', s'.handles[id.index]? = some h' ∧ h'.owner = h.owner ∧ h'.backend = h.backend ∧
          (h.detached = true → h'.detached = true) := by
  have keeps := HostProgram.host_keepsTo (R := Proceeds program.FindsDirectly)
    (fun _ _ answers => Proceeds.keepsTo detaches answers) limit
  refine ⟨?_, ?_, ?_⟩
  · exact ((keeps.reaches reached).2 (State.Sound.initial store world)).made
  · intro id h t op found stale through
    exact Operation.runOn_of_stale _ through found stale
  · intro s' onward id h found
    exact (keeps.reaches onward).1.handles id h found

/-- A host that does whatever it is asked and gives nothing. -/
def obligingHost : HostProgram Unit := fun _ _ _ _ w => .answer w (.ok .nil)

/-- The main thread attaches to the obliging host, makes a call and detaches. -/
def obligingRun : State Unit :=
  (Client.run (obligingHost.host nestingLimit)
    (.perform .currentRuntime fun _ => .perform (.box ⟨0⟩ .nil) fun _ =>
      .perform .detachRuntime .finish)).runOn .main (.initial (.ofSettings .nil []) ()) |>.2

/-- The call of the main thread went through its handle, which is refused now that it is detached. -/
theorem calls_go_through_held_handles_obliging :
    Grounds obligingHost.FindsDirectly obligingRun obligingRun.journal ∧
      ∃ message, ((Operation.box ⟨0⟩ .nil).run (obligingHost.host nestingLimit)).runOn .main
        obligingRun = (.error (.plain .bridge message), obligingRun) := by
  have reached : (obligingHost.host nestingLimit).Reaches Operation.Any
      (.initial (.ofSettings .nil []) ()) obligingRun := by
    have uses : Client.Uses Operation.Any (.perform .currentRuntime fun _ =>
        .perform (.box ⟨0⟩ .nil) fun _ => .perform .detachRuntime .finish) :=
      ⟨trivial, fun _ => ⟨trivial, fun _ => ⟨trivial, fun _ => trivial⟩⟩⟩
    refine .turn (t := .main) .start uses ?_
    exact .performed (Prod.eta _).symm (.performed (Prod.eta _).symm
      (.performed (Prod.eta _).symm .here))
  obtain ⟨grounds, refused, -⟩ := calls_go_through_held_handles obligingHost
    (fun _ _ _ _ => ⟨.nil, rfl⟩) nestingLimit (.ofSettings .nil []) () obligingRun reached
  refine ⟨grounds, refused ⟨0⟩ ⟨defaultBackend, .main, true⟩ .main (.box ⟨0⟩ .nil) rfl (.inl rfl) rfl⟩

/-- A host that calls back to detach the thread when it looks up a class. -/
def forgetfulHost : HostProgram Unit := fun _ _ _ call w =>
  match call with
  | .staticClass _ => .callBack w (.perform .detachRuntime) fun _ w => .answer w (.ok .nil)
  | _ => .answer w (.ok .nil)

/-- The main thread attaches to the forgetful host and makes a static call. -/
def forgetfulRun : State Unit :=
  (Client.run (forgetfulHost.host nestingLimit)
    (.perform .currentRuntime fun _ => .perform (.invokeStatic ⟨0⟩ (.text "demo.Host") "start" [])
      .finish)).runOn .main (.initial (.ofSettings .nil []) ()) |>.2

/-- A static call checks its handle once. Its method is called through the handle even if looking up the class has
called back to detach it. -/
theorem static_calls_may_outlive_their_handle :
    forgetfulHost.DetachesDirectly ∧
      (forgetfulHost.host nestingLimit).Reaches Operation.Any (.initial (.ofSettings .nil []) ()) forgetfulRun ∧
      ∃ later c earlier, forgetfulRun.journal = later ++ .called c :: earlier ∧ c.call = .invoke .nil "start" [] ∧
        c.through? = some ⟨0⟩ ∧ ∀ t b, ¬ Held earlier ⟨0⟩ t b := by
  refine ⟨fun _ _ _ _ => ⟨.nil, rfl⟩, ?_, ?_⟩
  · have uses : Client.Uses Operation.Any (.perform .currentRuntime fun _ =>
        .perform (.invokeStatic ⟨0⟩ (.text "demo.Host") "start" []) .finish) :=
      ⟨trivial, fun _ => ⟨trivial, fun _ => trivial⟩⟩
    refine .turn (t := .main) .start uses ?_
    exact .performed (Prod.eta _).symm (.performed (Prod.eta _).symm .here)
  · -- The lookup came back after the handle was detached, with one more return in between.
    refine ⟨[_], _, [_, _] ++ _ :: _, rfl, rfl, rfl, fun t b => Held.not_of_detaches rfl ?_⟩
    rintro (_ | ⟨_, _ | ⟨_, absurd⟩⟩)
    cases absurd

end HostBridge
