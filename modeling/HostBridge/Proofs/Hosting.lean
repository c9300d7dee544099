import HostBridge.Proofs.Operations

/-!
# Programs and callers that keep to a course

A host program keeps to a course if serving one call does, given that its requests are answered by what
keeps to it. So do callers, and runs of any length in which threads take turns.

What programs do is limited by the operations that they are allowed. Some calls are answered
directly: the program then asks for nothing but lines in the log.
-/

namespace HostBridge

variable {ω α : Type}

/-! ### What programs may do -/

/-- All operations. -/
def Operation.Any : Operation → Prop := fun _ => True

/-- The operation that is asked for is allowed. -/
def Request.Uses (allowed : Operation → Prop) : Request → Prop
  | .perform op | .turn _ op => allowed op
  | .log _ => True

namespace Reply

/-- All operations that may be asked for are allowed. -/
def Uses (allowed : Operation → Prop) : Reply ω α → Prop
  | .answer .. => True
  | .callBack _ request resume =>
    request.Uses allowed ∧ ∀ result w, (resume result w).Uses allowed

/-- If all operations are allowed, so is whatever may be asked for. -/
theorem uses_any (reply : Reply ω α) : reply.Uses Operation.Any := by
  induction reply with
  | answer w result => trivial
  | callBack w request resume ih =>
    refine ⟨?_, ih⟩
    cases request <;> trivial

/-- The reply asks for nothing but lines in the log and comes to a result of this kind. -/
def Direct (comesTo : Except Fault α → Prop) : Reply ω α → Prop
  | .answer _ result => comesTo result
  | .callBack _ (.log _) resume => ∀ w, (resume (.ok .nil) w).Direct comesTo
  | .callBack _ _ _ => False

end Reply

/-- All operations that a host program may ask for are allowed. -/
def HostProgram.Uses (allowed : Operation → Prop) (program : HostProgram ω) : Prop :=
  ∀ view t b call w, (program view t b call w).Uses allowed

/-- Detaching a thread returns in order, and does not call back. -/
def HostProgram.DetachesDirectly (program : HostProgram ω) : Prop :=
  ∀ view t b w, (program view t b .detach w).Direct fun result => ∃ v, result = .ok v

/-- Looking a class up does not call back. -/
def HostProgram.FindsDirectly (program : HostProgram ω) : Prop :=
  ∀ view t b name w, (program view t b (.staticClass name) w).Direct fun _ => True

/-! ### Answers to requests -/

/-- A line for the log is taken, and nothing else happens. -/
def TakesLines (answer : Request → Action ω Value) : Prop :=
  ∀ entry, answer (.log entry) = Request.refuse (.log entry)

/-- Answers that keep to a course as long as what is asked for is allowed. -/
structure Answers (allowed : Operation → Prop) (R : State ω → State ω → Prop)
    (answer : Request → Action ω Value) : Prop where
  keeps : ∀ q : Request, q.Uses allowed → (answer q).Keeps R
  lines : TakesLines answer

namespace Answers

open HostBridge.Action (Keeps)

variable {allowed : Operation → Prop} {R : State ω → State ω → Prop} [Custody R] [Releases allowed R]

omit [Releases allowed R] in
private theorem refuse : Answers allowed R (Request.refuse (ω := ω)) where
  keeps q _ := by
    cases q with
    | perform op => exact Keeps.throw _
    | turn t op => exact Keeps.throw _
    | log entry => exact Keeps.bind (Keeps.log entry) fun _ => Keeps.pure _
  lines _ := rfl

private theorem run {host : Host ω} (h : host.KeepsTo allowed R) : Answers allowed R (Request.run host) where
  keeps q ok := by
    cases q with
    | perform op => exact h.run op ok
    | turn u op => exact fun _ s => h.run op ok u s
    | log entry => exact Keeps.bind (Keeps.log entry) fun _ => Keeps.pure _
  lines _ := rfl

end Answers

/-! ### Serving a call -/

namespace Reply

open HostBridge.Action (Keeps)

variable {answer : Request → Action ω Value}

private theorem run_keeps {allowed : Operation → Prop} {R : State ω → State ω → Prop} [Course R]
    (h : Answers allowed R answer) (reply : Reply ω Value) (uses : reply.Uses allowed) :
    Keeps R (reply.run answer) := by
  induction reply with
  | answer w result =>
    exact Keeps.bind (Keeps.of_silent fun _ _ => ⟨rfl, rfl, rfl⟩) fun _ => Keeps.ofExcept _
  | callBack w request resume ih =>
    refine Keeps.bind (Keeps.of_silent fun _ _ => ⟨rfl, rfl, rfl⟩) fun _ => ?_
    refine Keeps.bind (Keeps.outcome (h.keeps request uses.1)) fun result => ?_
    exact Keeps.bind Keeps.get fun s => ih result s.world (uses.2 result s.world)

/-- A property of every state in which the host works on a call: where it starts, and where it goes on
after a request. -/
def Throughout (answer : Request → Action ω Value) (t : ThreadId) (P : State ω → Prop) :
    Reply ω Value → State ω → Prop
  | .answer w _, s => P { s with world := w }
  | .callBack w request resume, s =>
    P { s with world := w } ∧
      let ended := (answer request).runOn t { s with world := w }
      (resume ended.1 ended.2.world).Throughout answer t P ended.2

/-- What follows from a property that holds throughout holds throughout. -/
theorem Throughout.mono {t : ThreadId} {P Q : State ω → Prop} (implies : ∀ s, P s → Q s)
    {reply : Reply ω Value} {s : State ω} (always : reply.Throughout answer t P s) :
    reply.Throughout answer t Q s := by
  induction reply generalizing s with
  | answer w result => exact implies _ always
  | callBack w request resume ih => exact ⟨implies _ always.1, ih _ _ always.2⟩

/-- A property that the answers keep holds throughout the work of a host. -/
theorem throughout_of_keeps {allowed : Operation → Prop} {R : State ω → State ω → Prop} [Course R]
    (h : Answers allowed R answer) {P : State ω → Prop} (kept : ∀ s s', R s s' → P s → P s')
    (reply : Reply ω Value) (uses : reply.Uses allowed) {t : ThreadId} {s : State ω} (start : P s) :
    reply.Throughout answer t P s := by
  induction reply generalizing s with
  | answer w result => exact kept s _ (Course.silent ⟨rfl, rfl, rfl⟩) start
  | callBack w request resume ih =>
    have here : P { s with world := w } := kept s _ (Course.silent ⟨rfl, rfl, rfl⟩) start
    refine ⟨here, ih _ _ (uses.2 _ _) ?_⟩
    exact kept _ _ (h.keeps request uses.1 t _) here

private theorem run_of_direct (lines : TakesLines answer) {comesTo : Except Fault Value → Prop}
    (reply : Reply ω Value) (direct : reply.Direct comesTo) (t : ThreadId) (s : State ω) :
    ∃ result w l, comesTo result ∧
      (reply.run answer).runOn t s = (result, { s with world := w, log := l }) := by
  induction reply generalizing s with
  | answer w result => exact ⟨result, w, s.log, direct, by simp [run]⟩
  | callBack w request resume ih =>
    cases request with
    | perform op => exact direct.elim
    | turn u op => exact direct.elim
    | log entry =>
      obtain ⟨result, w', l, ok, ran⟩ := ih (.ok .nil) w (direct w)
        { s with world := w, log := entry :: s.log }
      refine ⟨result, w', l, ok, ?_⟩
      simp only [run, lines entry, Request.refuse, Action.runOn_bind, Action.runOn_modify,
        Action.runOn_outcome, Action.runOn_log, Action.runOn_pure, Action.runOn_get]
      exact ran

end Reply

namespace HostProgram

variable (program : HostProgram ω) {answer : Request → Action ω Value} (level : Nat)

/-- A call is noted, worked on, and noted again when it comes back. -/
theorem runOn_serve {through? : Option HandleId} {b : BackendId} {call : Call} {t : ThreadId}
    {s e : State ω} {result : Except Fault Value}
    (ran : ((program s.view t b call s.world).run answer).runOn t
      (s.noting (.called ⟨t, b, call, through?, level⟩)) = (result, e)) :
    (program.serve answer level through? b call).runOn t s =
      (result, e.noting (.returned ⟨t, b, call, through?, level⟩ (Fault.of? result))) := by
  have noted : (s.noting (.called ⟨t, b, call, through?, level⟩)).view = s.view := rfl
  simp [serve, ran]

/-- Between the two notes of a call, its course is kept to. -/
theorem runOn_serve_keeps {allowed : Operation → Prop} {R : State ω → State ω → Prop} [Course R]
    (h : Answers allowed R answer) (through? : Option HandleId) (b : BackendId) (call : Call)
    (t : ThreadId) (s : State ω) (uses : (program s.view t b call s.world).Uses allowed) :
    ∃ result e, R (s.noting (.called ⟨t, b, call, through?, level⟩)) e ∧
      (program.serve answer level through? b call).runOn t s =
        (result, e.noting (.returned ⟨t, b, call, through?, level⟩ (Fault.of? result))) := by
  have worked := Reply.run_keeps h (program s.view t b call s.world) uses t
    (s.noting (.called ⟨t, b, call, through?, level⟩))
  cases ran : ((program s.view t b call s.world).run answer).runOn t
    (s.noting (.called ⟨t, b, call, through?, level⟩)) with
  | mk result e =>
  rw [ran] at worked
  exact ⟨result, e, worked, runOn_serve program level ran⟩

/-- A call that is answered directly changes the world and the log, and is noted. -/
theorem runOn_serve_of_direct (lines : TakesLines answer) {comesTo : Except Fault Value → Prop}
    (through? : Option HandleId) {b : BackendId} {call : Call} {t : ThreadId} {s : State ω}
    (direct : (program s.view t b call s.world).Direct comesTo) :
    ∃ result w l, comesTo result ∧
      (program.serve answer level through? b call).runOn t s =
        (result, { s with
          world := w
          log := l
          journal := .returned ⟨t, b, call, through?, level⟩ (Fault.of? result) ::
            .called ⟨t, b, call, through?, level⟩ :: s.journal }) := by
  obtain ⟨result, w, l, ok, ran⟩ := Reply.run_of_direct lines _ direct t
    (s.noting (.called ⟨t, b, call, through?, level⟩))
  refine ⟨result, w, l, ok, ?_⟩
  rw [runOn_serve program level ran]
  rfl

end HostProgram

namespace HostProgram

/-- A host is a program that serves calls with these answers to its requests. -/
theorem host_eq_serve (program : HostProgram ω) (level : Nat) :
    program.host level = program.serve (program.answers level) level := by
  cases level <;> rfl

variable {allowed : Operation → Prop} {R : State ω → State ω → Prop} [Custody R] [Releases allowed R]
  {program : HostProgram ω}

/-- The answers to the requests of a program keep to a course if serving the calls that nest inside does. -/
theorem answers_keep {bound : Nat}
    (h : ∀ answer level, level < bound → Answers allowed R answer →
      (program.serve answer level).KeepsTo allowed R) :
    ∀ level, level ≤ bound → Answers allowed R (program.answers level) := by
  intro level
  induction level with
  | zero => exact fun _ => Answers.refuse
  | succ level ih =>
    intro inside
    have host : (program.host level).KeepsTo allowed R := by
      rw [host_eq_serve]
      exact h _ level inside (ih (Nat.le_of_lt inside))
    exact Answers.run host

/-- Hosts made by a program keep to a course, however deep calls may nest, if serving a call does. -/
theorem host_keepsTo
    (h : ∀ answer level, Answers allowed R answer → (program.serve answer level).KeepsTo allowed R)
    (level : Nat) : (program.host level).KeepsTo allowed R := by
  rw [host_eq_serve]
  exact h _ level (answers_keep (fun answer level _ => h answer level) level (Nat.le_refl level))

end HostProgram

/-! ### Callers and turns -/

namespace Host.KeepsTo

open HostBridge.Action (Keeps)

variable {allowed : Operation → Prop} {R : State ω → State ω → Prop} [Custody R] [Releases allowed R]
  {host : Host ω}

private theorem runClient (h : host.KeepsTo allowed R) (client : Client) (uses : client.Uses allowed) :
    Keeps R (client.run host) := by
  induction client with
  | finish result => exact Keeps.ofExcept result
  | perform op next ih =>
    refine Keeps.bind (Keeps.outcome (h.run op uses.1)) fun result => ?_
    exact ih result (uses.2 result)
  | withRuntime body next inside after =>
    refine Keeps.bind (Keeps.outcome (h.calls.withRuntime fun rt => inside rt (uses.1 rt))) fun r => ?_
    exact after r (uses.2 r)

private theorem passes (h : host.KeepsTo allowed R) {client : Client} {t : ThreadId} {s s' : State ω}
    (passes : client.Passes host t s s') (uses : client.Uses allowed) : R s s' := by
  induction passes with
  | here => exact Path.refl _
  | @performed op _ s _ _ _ ran _ ih =>
    have first := h.run op uses.1 t s
    rw [ran] at first
    exact Path.trans first (ih (uses.2 _))
  | @inside _ _ s _ _ _ attached _ ih =>
    have first := h.currentRuntime t s
    rw [attached] at first
    exact Path.trans first (ih (uses.1 _))
  | @after body _ s _ _ _ ran _ ih =>
    have first := h.calls.withRuntime (fun rt => h.runClient (body rt) (uses.1 rt)) t s
    rw [ran] at first
    exact Path.trans first (ih (uses.2 _))

/-- Any number of turns of any threads keeps to the course. -/
theorem reaches (h : host.KeepsTo allowed R) {start s : State ω}
    (reached : host.Reaches allowed start s) : R start s := by
  induction reached with
  | start => exact Path.refl start
  | turn _ uses passes ih => exact Path.trans ih (h.passes passes uses)

end Host.KeepsTo

end HostBridge
