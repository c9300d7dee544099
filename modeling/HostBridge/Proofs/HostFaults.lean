import HostBridge.Proofs.Stretch

/-!
# What a fault of the host leads to

When a call that an operation makes through its handle comes back with a fault of the host, the operation
ends there: it makes no further call, and fails with a fault that stands in some relation to the host's.
The rules here follow how operations are put together. Calls that nest inside of others are told from the
operation's own by their level.
-/

namespace HostBridge

variable {ω α β : Type}

namespace Fault

/-- The first fault was raised on the way to the second: it is the second or among its causes. -/
inductive InChain (h : Fault) : Fault → Prop
  | here : InChain h h
  | answered {f g : Fault} (answers : f.cause = some g) (rest : InChain h g) : InChain h f

/-- The fault was thrown by the host. -/
def IsHost (h : Fault) : Prop := ∃ className message trace cause, h = .host className message trace cause

/-- The kind of a fault of the bridge. -/
def kind? : Fault → Option BridgeKind
  | .bridge kind .. => some kind
  | _ => none

/-- A fault of the bridge is not the host's. -/
theorem not_isHost_of_kind {f : Fault} {kind : BridgeKind} (bridge : f.kind? = some kind) :
    ¬ f.IsHost := by
  rintro ⟨className, message, trace, cause, rfl⟩
  cases bridge

/-- The second fault is one of the bridge, of just this kind, that answers the host's: it carries the
host's class and message, its text ends with the host's, and the host's fault is among its causes. -/
def Reports (kind : BridgeKind) (h f : Fault) : Prop :=
  ∃ className message trace cause lead reason, h = .host className message trace cause ∧
    f = .bridge kind (lead ++ h.text) (some className) message (some reason) ∧ InChain h reason

/-- Only a fault of the bridge, of this kind, reports one of the host. -/
theorem Reports.eq_bridge {kind : BridgeKind} {h f : Fault} (reports : Reports kind h f) :
    ∃ message hostClass hostMessage cause, f = .bridge kind message hostClass hostMessage cause := by
  obtain ⟨className, message, -, -, lead, reason, -, same, -⟩ := reports
  exact ⟨_, _, _, _, same⟩

/-- The host's own faults report none. -/
theorem Reports.not_isHost {kind : BridgeKind} {h f : Fault} (reports : Reports kind h f) : ¬ f.IsHost := by
  rintro ⟨className, message, trace, cause, same⟩
  obtain ⟨text, hostClass, hostMessage, reason, same'⟩ := reports.eq_bridge
  rw [same] at same'
  cases same'

/-- A fault made from the host's reports it. -/
theorem reports_fromHost (kind : BridgeKind) (text className : String)
    (message trace : Option String) (cause : Option Fault) :
    Reports kind (.host className message trace cause)
      (fromHost kind text (.host className message trace cause)) :=
  ⟨className, message, trace, cause, text ++ ": ", .host className message trace cause, rfl, rfl, .here⟩

/-- A fault made from one that reports the host's reports it too. -/
theorem Reports.fromBridge {kind : BridgeKind} {h f : Fault} (reports : Reports kind h f)
    (kind' : BridgeKind) (text : String) : Reports kind' h (Fault.fromBridge kind' text f) := by
  obtain ⟨className, message, trace, cause, lead, reason, rfl, rfl, chain⟩ := reports
  refine ⟨className, message, trace, cause, text ++ ": " ++ lead, _, rfl, ?_,
    .answered (f := .bridge kind (lead ++ Fault.text (.host className message trace cause))
      (some className) message (some reason)) rfl chain⟩
  rw [String.append_assoc]
  rfl

end Fault

/-- A call of this level that needs a handle came back with this fault of the host. -/
def Event.Raises (level : Nat) (h : Fault) (e : Event) : Prop :=
  ∃ c, e = .returned c (some h) ∧ c.level = level ∧ c.call.isPrimitive = true ∧ h.IsHost

/-- If a call came back with a fault of the host, it was the last event, and the result is a fault that
stands in the relation to the host's. -/
def EndsWith (level : Nat) (reported : Fault → Fault → Prop) (result : Except Fault α)
    (trail : List Event) : Prop :=
  ∀ later e earlier h, trail = later ++ e :: earlier → e.Raises level h →
    later = [] ∧ ∃ f, result = .error f ∧ reported h f

namespace EndsWith

variable {level : Nat} {reported : Fault → Fault → Prop}

private theorem of_quiet {trail : List Event} (quiet : ∀ e ∈ trail, ∀ h, ¬ e.Raises level h)
    (result : Except Fault α) : EndsWith level reported result trail := by
  intro later e earlier h split raises
  refine (quiet e ?_ h raises).elim
  rw [split]
  exact List.mem_append_right later List.mem_cons_self

/-- A stretch that ends with a success has no fault of the host in it, whatever would report one. -/
theorem of_ok {reported' : Fault → Fault → Prop} {a : α} {b : β} {trail : List Event}
    (ends : EndsWith level reported (.ok a) trail) : EndsWith level reported' (.ok b) trail := by
  intro later e earlier h split raises
  obtain ⟨-, f, impossible, -⟩ := ends later e earlier h split raises
  cases impossible

/-- A stretch that ends with a fault ends with the same one for every kind of result. -/
theorem of_error {fault : Fault} {trail : List Event}
    (ends : EndsWith level reported (.error fault : Except Fault α) trail) :
    EndsWith level reported (.error fault : Except Fault β) trail := by
  intro later e earlier h split raises
  obtain ⟨last, f, failed, stands⟩ := ends later e earlier h split raises
  cases failed
  exact ⟨last, fault, rfl, stands⟩

/-- What goes on after a success ends as its last part does. -/
theorem append {a : α} {result : Except Fault β} {first second : List Event}
    (before : EndsWith level reported (.ok a) first) (after : EndsWith level reported result second) :
    EndsWith level reported result (second ++ first) := by
  intro later e earlier h split raises
  rcases List.append_eq_append_iff.mp split with ⟨within, split, rest⟩ | ⟨within, split, rest⟩
  · obtain ⟨-, f, impossible, -⟩ := before within e earlier h rest raises
    cases impossible
  · cases within with
    | nil =>
      obtain ⟨-, f, impossible, -⟩ := before [] e earlier h rest.symm raises
      cases impossible
    | cons first' within =>
      obtain ⟨rfl, rest⟩ := List.cons.inj rest
      exact after later e within h split raises

end EndsWith

/-! ### Stretches without faults of the host -/

/-- The journal grows by a stretch in which no call of this level came back with a fault of the host. -/
def Quiet (level : Nat) (s s' : State ω) : Prop :=
  ∃ trail, s'.journal = trail ++ s.journal ∧ ∀ e ∈ trail, ∀ h, ¬ e.Raises level h

namespace Quiet

variable {level inner : Nat} {program : HostProgram ω} {answer : Request → Action ω Value}

instance : Course (Quiet (ω := ω) level) := inferInstanceAs (Course (State.Adds _))

private theorem of_called (s : State ω) (c : Crossing) : Quiet level s (s.noting (.called c)) := by
  refine State.Adds.noting s ?_
  rintro h ⟨c', same, -⟩
  cases same

instance : Loose (Quiet (ω := ω) level) := by
  refine State.Adds.loose ?_ ?_
  · rintro id h ⟨c, same, -⟩
    cases same
  · rintro t h ⟨c, same, -⟩
    cases same

private theorem currentRuntime (answers : Answers Operation.Any (Quiet level) answer) :
    (Action.currentRuntime (program.serve answer inner)).Keeps (Quiet level) := by
  refine Loose.currentRuntime fun b => State.Adds.serve answers ?_ ?_
  · rintro t h ⟨c, same, -⟩
    cases same
  · rintro t fault? h ⟨c, same, -, primitive, -⟩
    cases same
    cases primitive

/-- Everything that happens at another level is quiet. -/
theorem keepsTo (answers : Answers Operation.Any (Quiet level) answer) (other : inner ≠ level) :
    (program.serve answer inner).KeepsTo Operation.Any (Quiet level) := by
  refine Loose.keepsTo fun through? b call => State.Adds.serve answers ?_ ?_
  · rintro t h ⟨c, same, -⟩
    cases same
  · rintro t fault? h ⟨c, same, at_level, -⟩
    cases same
    exact other at_level

/-- What happens inside of calls of a level is quiet at that level. -/
theorem answers (program : HostProgram ω) (level : Nat) :
    Answers Operation.Any (Quiet level) (program.answers level) :=
  HostProgram.answers_keep (fun _ _ below answers => keepsTo answers (Nat.ne_of_lt below)) level
    (Nat.le_refl level)

end Quiet

/-! ### Computations that let the host's faults surface -/

/-- However the computation runs, a call of this level that comes back with a fault of the host is its
last event, and the computation fails with a fault that stands in the relation to the host's. -/
def Action.Surfaces (level : Nat) (reported : Fault → Fault → Prop) (p : Action ω α) : Prop :=
  ∀ t s, ∃ trail, (p.runOn t s).2.journal = trail ++ s.journal ∧
    EndsWith level reported (p.runOn t s).1 trail

namespace Action.Surfaces

variable {level : Nat} {reported reported' : Fault → Fault → Prop}

/-- A quiet computation has no fault of the host to let surface. -/
theorem of_quiet {p : Action ω α} (quiet : Keeps (Quiet level) p) : Surfaces level reported p := by
  intro t s
  obtain ⟨trail, grown, quiet⟩ := quiet t s
  exact ⟨trail, grown, .of_quiet quiet _⟩

/-- A looser relation to the host's fault. -/
theorem mono {p : Action ω α} (h : Surfaces level reported p)
    (implies : ∀ h f, reported h f → reported' h f) : Surfaces level reported' p := by
  intro t s
  obtain ⟨trail, grown, ends⟩ := h t s
  refine ⟨trail, grown, ?_⟩
  intro later e earlier h split raises
  obtain ⟨last, f, failed, stands⟩ := ends later e earlier h split raises
  exact ⟨last, f, failed, implies h f stands⟩

/-- A row of computations lets faults surface if each does. -/
theorem bind {p : Action ω α} {f : α → Action ω β} (first : Surfaces level reported p)
    (rest : ∀ a, Surfaces level reported (f a)) : Surfaces level reported (p >>= f) := by
  intro t s
  obtain ⟨trail, grown, ends⟩ := first t s
  rw [runOn_bind]
  cases ran : p.runOn t s with
  | mk result s' =>
  rw [ran] at grown ends
  cases result with
  | error fault => exact ⟨trail, grown, ends.of_error⟩
  | ok a =>
    obtain ⟨trail', grown', ends'⟩ := rest a t s'
    refine ⟨trail' ++ trail, ?_, ends.append ends'⟩
    dsimp only
    rw [grown', grown, List.append_assoc]

/-- A function of the result lets faults surface. -/
theorem map {p : Action ω α} (f : α → β) (h : Surfaces level reported p) :
    Surfaces level reported (f <$> p) := by
  rw [map_eq_pure_bind]
  exact bind h fun a => of_quiet (Keeps.pure (f a))

variable {program : HostProgram ω} {answer : Request → Action ω Value}

private theorem serve (answers : Answers Operation.Any (Quiet level) answer) (through? : Option HandleId)
    (b : BackendId) (call : Call) :
    Surfaces level Eq (program.serve answer level through? b call) := by
  intro t s
  obtain ⟨result, e, worked, served⟩ := program.runOn_serve_keeps level answers through? b call t s
    (Reply.uses_any _)
  obtain ⟨within, grown, quiet⟩ : Quiet level s e :=
    Course.trans (Quiet.of_called s ⟨t, b, call, through?, level⟩) worked
  rw [served]
  refine ⟨.returned ⟨t, b, call, through?, level⟩ (Fault.of? result) :: within, ?_, ?_⟩
  · rw [State.journal_noting, grown, List.cons_append]
  · intro later e' earlier h split raises
    cases later with
    | nil =>
      obtain ⟨rfl, -⟩ := List.cons.inj split
      obtain ⟨c, same, -⟩ := raises
      obtain ⟨-, failed⟩ := Event.returned.inj same
      cases result with
      | ok v => cases failed
      | error fault =>
        cases failed
        exact ⟨rfl, h, rfl, rfl⟩
    | cons first later =>
      obtain ⟨-, rfl⟩ := List.cons.inj split
      exact (quiet e' (List.mem_append_right later List.mem_cons_self) h raises).elim

/-- Rows of calls fail with the very fault that the last call came back with. -/
theorem calls (answers : Answers Operation.Any (Quiet level) answer) :
    (program.serve answer level).Calls (fun {α} => Surfaces level Eq (α := α)) where
  pure a := of_quiet (Keeps.pure a)
  reference id := of_quiet (Keeps.reference id)
  bind := bind
  currentRuntime := of_quiet (Quiet.currentRuntime answers)
  cross id call _ := bind (of_quiet (Keeps.checked id)) fun b => serve answers _ b call
  invokeStatic id className method args := by
    refine bind (of_quiet (Keeps.checked id)) fun b => ?_
    exact bind (serve answers _ b _) fun _ => serve answers _ b _

/-- A computation that goes as another one does but answers its faults lets them surface as it answers
them. -/
theorem of_answered {body : Action ω α} {p : Action ω β} (h : Surfaces level reported body)
    (succeeds : ∀ t s a s', body.runOn t s = (.ok a, s') → ∃ b, p.runOn t s = (.ok b, s'))
    (fails : ∀ t s fault s', body.runOn t s = (.error fault, s') →
      ∃ fault' l, p.runOn t s = (.error fault', { s' with log := l }) ∧
        ∀ h : Fault, h.IsHost → reported h fault → reported' h fault') :
    Surfaces level reported' p := by
  intro t s
  obtain ⟨trail, grown, ends⟩ := h t s
  cases ran : body.runOn t s with
  | mk result s' =>
  rw [ran] at grown ends
  cases result with
  | ok a =>
    obtain ⟨b, went⟩ := succeeds t s a s' ran
    rw [went]
    exact ⟨trail, grown, ends.of_ok⟩
  | error fault =>
    obtain ⟨fault', l, went, implies⟩ := fails t s fault s' ran
    rw [went]
    refine ⟨trail, grown, ?_⟩
    intro later e earlier h split raises
    obtain ⟨last, f, failed, stands⟩ := ends later e earlier h split raises
    cases failed
    obtain ⟨-, -, -, -, host⟩ := raises
    exact ⟨last, fault', rfl, implies h host stands⟩

/-- A fault of the host is turned into one that reports it, and others are left alone. -/
theorem onHostFault {body : Action ω α} {respond : Fault → Action ω Fault} {kind : BridgeKind}
    (text : String) (h : Surfaces level Eq body)
    (responds : ∀ fault t s, ∃ l,
      (respond fault).runOn t s = (.ok (.fromHost kind text fault), { s with log := l })) :
    Surfaces level (Fault.Reports kind) (Action.onHostFault body respond) := by
  refine of_answered h ?_ ?_
  · intro t s a s' ran
    exact ⟨a, runOn_onHostFault_ok ran⟩
  · intro t s fault s' ran
    by_cases host : fault.IsHost
    · obtain ⟨className, message, trace, cause, rfl⟩ := host
      obtain ⟨l, responded⟩ := responds (.host className message trace cause) t s'
      refine ⟨_, l, runOn_onHostFault_host ran responded, ?_⟩
      rintro h - rfl
      exact Fault.reports_fromHost kind text className message trace cause
    · refine ⟨fault, s'.log, runOn_onHostFault_other ran ?_, ?_⟩
      · intro className message trace cause same
        exact host ⟨_, _, _, _, same⟩
      · rintro h is_host rfl
        exact (host is_host).elim

end Action.Surfaces

end HostBridge
