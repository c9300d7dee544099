import HostBridge.Proofs.HostFaults
import HostBridge.Proofs.Crossings

/-!
# Operations that ask for the handle first

Whatever needs the host asks for the handle of its thread before anything else that counts, and ends with
the fault if there is none to be had. What does not come to ask makes no call at all.
-/

namespace HostBridge

variable {ω α β : Type}

/-- Nothing changed but the log and the configuration. -/
def State.Hushed (s s' : State ω) : Prop := s' = { s with log := s'.log, store := s'.store }

namespace State.Hushed

variable {s s' s'' : State ω}

private theorem refl (s : State ω) : s.Hushed s := rfl

private theorem trans (first : s.Hushed s') (second : s'.Hushed s'') : s.Hushed s'' := by
  rw [Hushed] at first second ⊢
  rw [second, first]

/-- What is attached, the handles, the journal, the values and the world stay. -/
theorem still (hushed : s.Hushed s') : s.Still s' := by
  rw [Hushed] at hushed
  rw [hushed]
  exact ⟨rfl, rfl, rfl, rfl, rfl⟩

end State.Hushed

namespace Action

/-- Before anything else that counts, the computation asks for the handle of its thread, and it ends with
the fault if that is one of attaching. -/
def AsksFirst (host : Host ω) (t : ThreadId) (s : State ω) (p : Action ω α) : Prop :=
  ∃ s₁, ∃ rest : Except Fault HandleId → Action ω α, s.Hushed s₁ ∧
    p.runOn t s = (outcome (currentRuntime host) >>= rest).runOn t s₁ ∧
    ∀ fault s₂, fault.kind? = some .attachment → (rest (.error fault)).runOn t s₂ = (.error fault, s₂)

namespace AsksFirst

variable {host : Host ω} {t : ThreadId} {s s₁ : State ω} {p : Action ω α}

/-- Asking is what asking begins with. -/
theorem currentRuntime : AsksFirst host t s (Action.currentRuntime host) := by
  refine ⟨s, MonadExcept.ofExcept, .refl s, ?_, fun fault s₂ _ => runOn_ofExcept _ t s₂⟩
  simp

/-- A fault of attaching that is caught is only passed on. -/
theorem catching {f : Except Fault α → Action ω β} (first : AsksFirst host t s p)
    (passes : ∀ fault s₂, fault.kind? = some .attachment →
      (f (.error fault)).runOn t s₂ = (.error fault, s₂)) : AsksFirst host t s (outcome p >>= f) := by
  obtain ⟨s₁, rest, hushed, ran, ends⟩ := first
  refine ⟨s₁, fun r => outcome (rest r) >>= f, hushed, ?_, fun fault s₂ kind => ?_⟩
  · simp [ran]
  · simp [ends fault s₂ kind, passes fault s₂ kind]

/-- Computations that come to the same ask alike. -/
theorem congr {q : Action ω α} (first : AsksFirst host t s p) (same : q.runOn t s = p.runOn t s) :
    AsksFirst host t s q := by
  rw [AsksFirst, same]
  exact first

private theorem bind {f : α → Action ω β} (first : AsksFirst host t s p) : AsksFirst host t s (p >>= f) := by
  refine (first.catching (f := fun r => MonadExcept.ofExcept r >>= f) fun fault s₂ _ => ?_).congr ?_
  · simp
  · simp

private theorem map (f : α → β) (first : AsksFirst host t s p) : AsksFirst host t s (f <$> p) := by
  refine (first.bind (f := fun a => Pure.pure (f a))).congr ?_
  rw [runOn_map, runOn_bind]
  cases ran : p.runOn t s with
  | mk result s' => cases result <;> rfl

/-- What is done with the handle comes after it. -/
theorem withRuntime {body : HandleId → Action ω α} : AsksFirst host t s (Action.withRuntime host body) :=
  bind currentRuntime

private theorem onHostFault {respond : Fault → Action ω Fault} (first : AsksFirst host t s p) :
    AsksFirst host t s (Action.onHostFault p respond) := by
  refine first.catching fun fault s₂ kind => ?_
  cases fault with
  | host => cases kind
  | _ => rfl

/-- A hushed computation may come before. -/
theorem after {q : Action ω β} {b : β} {f : β → Action ω α} (first : AsksFirst host t s₁ (f b))
    (ran : q.runOn t s = (.ok b, s₁)) (hushed : s.Hushed s₁) : AsksFirst host t s (q >>= f) := by
  obtain ⟨s₂, rest, hushed', ran', ends⟩ := first
  refine ⟨s₂, rest, hushed.trans hushed', ?_, ends⟩
  rw [runOn_bind, ran]
  exact ran'

/-- What is given at once may come before. -/
theorem given {r : Except Fault β} {b : β} {f : β → Action ω α} (came : r = .ok b)
    (first : AsksFirst host t s (f b)) : AsksFirst host t s (MonadExcept.ofExcept r >>= f) := by
  subst came
  exact first.after (runOn_ofExcept _ t s) (.refl s)

end AsksFirst

/-- Reading the configuration writes to the store only. -/
theorem runOn_configured (access : Config.Access α) (t : ThreadId) (s : State ω) :
    (configured access : Action ω α).runOn t s =
      ((access.run s.store).1, { s with store := (access.run s.store).2 }) := by
  simp only [configured, runOn_bind, runOn_get]
  change ((modify _ >>= fun _ => MonadExcept.ofExcept _ : Action ω α)).runOn t s = _
  rw [runOn_bind, runOn_modify]
  exact runOn_ofExcept _ t _

end Action

/-! ### Which operations ask -/

/-- The configuration can be read. -/
def State.Configured (s : State ω) : Prop := ∃ config, (Config.Store.bridgeConfig.run s.store).1 = .ok config

namespace Operation

open HostBridge.Action (AsksFirst Keeps)

/-- Whether the operation comes to ask for the handle of its thread. What can be decided without the host
is decided before that: whether the arguments can be passed, whether the values are there, whether the
fragments are texts, whether the configuration is in order. -/
def Asks (s : State ω) : Operation → Prop
  | .currentRuntime | .findNamespace _ | .namespaceHandle _ | .resolve _ _ | .require _ | .evaluate _
  | .prStr _ | .printLazy _ | .withRuntime _ | .toHost _ => True
  | .read _ => s.Configured
  | .readForms forms => (∃ texts, Action.fragmentsIn forms = .ok texts) ∧ s.Configured
  | .evalForms forms => ∃ texts, Action.fragmentsIn forms = .ok texts
  | .invoke f args =>
    (∃ arguments, Action.argumentsIn args = .ok arguments) ∧ ∃ target, s.view f.inner = some target
  | .toPrimitive id => ∃ ref, s.view id = some ref ∧ ref ≠ .nil
  | .printValue v => ∃ id ref, v = .owner id ∧ s.view id = some ref
  | _ => False

section Asking

variable (host : Host ω) (t : ThreadId) {s : State ω}

private theorem resolve_asksFirst (ns name : String) : AsksFirst host t s (Action.resolve host ns name) :=
  (AsksFirst.withRuntime.onHostFault).bind

private theorem findNamespace_asksFirst (ns : String) : AsksFirst host t s (Action.findNamespace host ns) :=
  (AsksFirst.withRuntime.onHostFault).bind

private theorem require_asksFirst (ns : String) : AsksFirst host t s (Action.require host ns) := by
  refine AsksFirst.after (AsksFirst.catching ?_ fun fault s₂ kind => ?_) (Action.runOn_log _ t s) rfl
  · exact AsksFirst.withRuntime.bind
  · cases fault with
    | bridge _ => cases kind; rfl
    | _ => cases kind

private theorem readString_asksFirst (configured : s.Configured) (text : String) :
    AsksFirst host t s (Action.readString host text) := by
  obtain ⟨config, read⟩ := configured
  have ran := Action.runOn_configured Config.Store.bridgeConfig t s
  rw [read] at ran
  refine AsksFirst.after ?_ ran rfl
  exact AsksFirst.withRuntime.onHostFault.bind

private theorem evalString_asksFirst (text : String) : AsksFirst host t s (Action.evalString host text) :=
  (resolve_asksFirst host t _ _).bind

private theorem invoke_asksFirst {f : Callable} {args target : Value} {arguments : List Argument}
    (converted : Action.argumentsIn args = .ok arguments) (there : s.view f.inner = some target) :
    AsksFirst host t s (Action.invoke host f args) := by
  refine AsksFirst.given converted (AsksFirst.after ?_ (Action.runOn_reference_of_owned there t) rfl)
  exact AsksFirst.withRuntime.onHostFault.bind

private theorem toPrimitive_asksFirst {id : OpaqueId} {ref : Value} (there : s.view id = some ref)
    (present : ref ≠ .nil) : AsksFirst host t s (Action.toPrimitive host id) := by
  refine AsksFirst.congr ?_ (Action.runOn_toPrimitive_of_present host there present t)
  refine AsksFirst.withRuntime.catching fun fault s₂ kind => ?_
  cases fault with
  | bridge _ => cases kind; rfl
  | _ => cases kind

private theorem printValue_asksFirst {id : OpaqueId} {ref : Value} (there : s.view id = some ref) :
    AsksFirst host t s (Action.printValue host id) := by
  refine AsksFirst.after ?_ (Action.runOn_reference_of_owned there t) rfl
  exact AsksFirst.withRuntime.onHostFault

/-- Every operation that comes to ask does so first. -/
theorem asksFirst {op : Operation} (asks : op.Asks s) : AsksFirst host t s (op.run host) := by
  cases op with
  | currentRuntime => exact AsksFirst.currentRuntime.bind
  | findNamespace ns => exact (findNamespace_asksFirst host t ns).bind
  | namespaceHandle ns => exact ((findNamespace_asksFirst host t ns).map _).bind
  | resolve ns name => exact (resolve_asksFirst host t ns name).bind
  | require ns => exact (require_asksFirst host t ns).bind
  | read text => exact (readString_asksFirst host t asks text).bind
  | evaluate text => exact (evalString_asksFirst host t text).bind
  | readForms forms =>
    obtain ⟨⟨texts, fragments⟩, configured⟩ := asks
    exact (AsksFirst.given fragments (readString_asksFirst host t configured _)).bind
  | evalForms forms =>
    obtain ⟨texts, fragments⟩ := asks
    exact (AsksFirst.given fragments (evalString_asksFirst host t _)).bind
  | invoke f args =>
    obtain ⟨⟨arguments, converted⟩, target, there⟩ := asks
    exact (invoke_asksFirst host t converted there).bind
  | toPrimitive id =>
    obtain ⟨ref, there, present⟩ := asks
    exact toPrimitive_asksFirst host t there present
  | printValue v =>
    obtain ⟨id, ref, rfl, there⟩ := asks
    exact (printValue_asksFirst host t there).bind
  | prStr v => exact (resolve_asksFirst host t _ _).bind.bind
  | printLazy v => exact (resolve_asksFirst host t _ _).bind.bind.bind
  | withRuntime f => exact AsksFirst.withRuntime.bind
  | toHost a => exact AsksFirst.withRuntime
  | _ => exact asks.elim

private theorem silent_readString (unread : ¬ s.Configured) (text : String) :
    s.Silent ((Action.readString host text).runOn t s).2 := by
  cases read : (Config.Store.bridgeConfig.run s.store).1 with
  | ok config => exact (unread ⟨config, read⟩).elim
  | error fault =>
    rw [Action.readString, Action.runOn_bind, Action.runOn_configured, read]
    exact ⟨rfl, rfl, rfl⟩

private theorem silent_printValue {id : OpaqueId} (gone : s.view id = none) :
    s.Silent ((Action.printValue host id).runOn t s).2 := by
  rw [Action.printValue, Action.runOn_bind, Action.runOn_reference_of_released gone]
  exact ⟨rfl, rfl, rfl⟩

private theorem silent_toPrimitive {id : OpaqueId} (present : ¬ ∃ ref, s.view id = some ref ∧ ref ≠ .nil) :
    s.Silent ((Action.toPrimitive host id).runOn t s).2 := by
  cases view : s.view id with
  | none =>
    rw [Action.toPrimitive, Action.runOn_bind, Action.runOn_reference_of_released view]
    exact ⟨rfl, rfl, rfl⟩
  | some ref =>
    by_cases absent : ref = .nil
    · subst absent
      rw [Action.toPrimitive, Action.runOn_bind, Action.runOn_reference_of_owned view]
      exact ⟨rfl, rfl, rfl⟩
    · exact (present ⟨ref, view, absent⟩).elim

private theorem silent_invoke {f : Callable} {args : Value}
    (refused : ¬ ((∃ arguments, Action.argumentsIn args = .ok arguments) ∧
      ∃ target, s.view f.inner = some target)) :
    s.Silent ((Action.invoke host f args).runOn t s).2 := by
  cases converted : Action.argumentsIn args with
  | error fault =>
    rw [Action.invoke, Action.runOn_bind, converted, Action.runOn_ofExcept]
    exact ⟨rfl, rfl, rfl⟩
  | ok arguments =>
    cases view : s.view f.inner with
    | some target => exact (refused ⟨⟨arguments, converted⟩, target, view⟩).elim
    | none =>
      rw [Action.invoke, Action.runOn_bind, converted, Action.runOn_ofExcept]
      dsimp only
      rw [Action.runOn_bind, Action.runOn_reference_of_released view]
      exact ⟨rfl, rfl, rfl⟩

private theorem silent_ofFragments {forms : List Value} (refused : ¬ ∃ texts, Action.fragmentsIn forms = .ok texts)
    (f : List String → Action ω OpaqueId) :
    s.Silent (((MonadExcept.ofExcept (Action.fragmentsIn forms) : Action ω (List String)) >>= f).runOn
      t s).2 := by
  cases fragments : Action.fragmentsIn forms with
  | ok texts => exact (refused ⟨texts, fragments⟩).elim
  | error fault =>
    rw [Action.runOn_bind, Action.runOn_ofExcept]
    exact ⟨rfl, rfl, rfl⟩

private theorem silent_map {α β : Type} {p : Action ω α} (silent : s.Silent (p.runOn t s).2) (f : α → β) :
    s.Silent ((p >>= fun a => (pure (f a) : Action ω β)).runOn t s).2 := by
  rw [Action.runOn_bind]
  cases ran : p.runOn t s with
  | mk result s' =>
    rw [ran] at silent
    cases result <;> exact silent

/-- An operation that does not come to ask, has no handle of its own and is no detaching, reaches no
backend. -/
theorem silent_of_not_asks {op : Operation} (asks : ¬ op.Asks s) (own : op.through? = none)
    (detaches : op ≠ .detachRuntime) : s.Silent ((op.run host).runOn t s).2 := by
  by_cases isLocal : op.IsLocal
  · have ok : Any op := trivial
    exact keeps_of_isLocal host isLocal ok t s
  cases op with
  | detachRuntime => exact (detaches rfl).elim
  | currentRuntime | findNamespace _ | namespaceHandle _ | resolve _ _ | require _ | evaluate _
  | prStr _ | printLazy _ | withRuntime _ | toHost _ => exact (asks trivial).elim
  | staticClass | invokeStatic | readField | invokeMethod | box | unbox | detachHandle => cases own
  | read text => exact silent_map t (silent_readString host t asks text) _
  | readForms forms =>
    refine silent_map t ?_ _
    by_cases fragments : ∃ texts, Action.fragmentsIn forms = .ok texts
    · obtain ⟨texts, fragments⟩ := fragments
      have unread : ¬ s.Configured := fun configured => asks ⟨⟨texts, fragments⟩, configured⟩
      rw [Action.readForms, Action.runOn_bind, fragments, Action.runOn_ofExcept]
      exact silent_readString host t unread _
    · exact silent_ofFragments t fragments _
  | evalForms forms => exact silent_map t (silent_ofFragments t asks _) _
  | invoke f args => exact silent_map t (silent_invoke host t asks) _
  | toPrimitive id => exact silent_toPrimitive host t asks
  | printValue v =>
    cases v with
    | owner id =>
      refine silent_map t (silent_printValue host t ?_) _
      cases view : s.view id with
      | none => rfl
      | some ref => exact (asks ⟨id, ref, rfl, view⟩).elim
    | _ => exact ⟨rfl, rfl, rfl⟩
  | _ => exact (isLocal trivial).elim

end Asking

end Operation

end HostBridge
