import HostBridge.Proofs.OwnedValues

/-!
# Uses of opaque values

As long as an opaque value owns an object, every use gets at that object, through whatever copy, callable or
call argument: it is read, unboxed, printed, called and handed over as it is. If the value owns nothing any
more, every use is refused, and no backend sees the object.
-/

namespace HostBridge

variable {ω : Type}

/-- The value is the opaque value itself, or a callable or a call argument that shares it. -/
def Value.Shares (id : OpaqueId) : Value → Prop
  | .owner id' => id' = id
  | .callable f => f.inner = id
  | .argument (.reference id') => id' = id
  | _ => False

namespace Argument

variable {id : OpaqueId}

private theorem eq_reference_of_shares {v : Value} {a : Argument} (passed : ofValue v = .ok a)
    (shares : v.Shares id) : a = .reference id := by
  cases v with
  | owner id' =>
    cases passed
    exact congrArg reference shares
  | callable f =>
    cases passed
    exact congrArg reference shares
  | argument a' =>
    cases passed
    cases a with
    | primitive p fits => exact shares.elim
    | reference id' => exact congrArg reference shares
  | _ => exact shares.elim

private theorem passed_of_argumentsIn {args : Value} {items : List Value} {arguments : List Argument}
    (parts : args.items? = some items) (converted : Action.argumentsIn args = .ok arguments) :
    Passed items arguments := by
  have other : ¬ args.IsTextual := by
    intro textual
    rw [Action.argumentsIn_of_textual textual] at converted
    cases converted
  rw [Action.argumentsIn_of_some other parts] at converted
  rcases ofValues_cases items with ⟨arguments', came, passed⟩ | ⟨_, _, _, _, fault, _, _, _, came⟩
  · rw [came] at converted
    cases converted
    exact passed
  · rw [came] at converted
    cases converted

private theorem mem_of_shares {items : List Value} {arguments : List Argument} (passed : Passed items arguments)
    (shares : ∃ item ∈ items, item.Shares id) : .reference id ∈ arguments := by
  induction passed with
  | nil =>
    obtain ⟨item, there, -⟩ := shares
    cases there
  | cons first rest ih =>
    obtain ⟨item, there, shares⟩ := shares
    rcases List.mem_cons.mp there with rfl | later
    · rw [eq_reference_of_shares first shares]
      exact List.mem_cons_self
    · exact List.mem_cons_of_mem _ (ih ⟨item, later, shares⟩)

private theorem forall₂_of_shares {v : Value} {items : List Value} {arguments : List Argument} {values : List Value}
    (passed : Passed items arguments)
    (handed : List.Forall₂ (fun a w => a = .reference id → w = v) arguments values) :
    List.Forall₂ (fun item w => item.Shares id → w = v) items values := by
  induction passed generalizing values with
  | nil =>
    cases handed
    exact .nil
  | cons first rest ih =>
    cases handed with
    | cons reference others =>
      exact .cons (fun shares => reference (eq_reference_of_shares first shares)) (ih others)

end Argument

/-- What an operation comes to on a thread, where calls to the host may nest so deep. -/
def HostProgram.does (program : HostProgram ω) (level : Nat) (op : Operation) (t : ThreadId) (s : State ω) :
    Except Fault Value × State ω := (op.run (program.host level)).runOn t s

/-- The thread gets this handle when it asks for it, and this is the state after that. -/
def HostProgram.GetsHandle (program : HostProgram ω) (level : Nat) (t : ThreadId) (s : State ω) (rt : HandleId)
    (s₁ : State ω) : Prop := (Action.currentRuntime (program.host level)).runOn t s = (.ok rt, s₁)

/-! ### While the value is there -/

/-- The object is printed as it is, unless it is the absent one, and no other method is called; or printing
ends before that, if a call fails or the handle is lost. -/
def State.Prints {α : Type} (level : Nat) (t : ThreadId) (rt : HandleId) (v : Value) (s : State ω)
    (came : Except Fault α × State ω) : Prop :=
  ∃ calls, (∀ c ∈ calls, c.1.isInvoke = false) ∧
    ((∃ out shown fault?, s.Makes level (calls ++ [(.invoke out "println" [shown], fault?)]) came.2 ∧
        (v ≠ .nil → shown = v)) ∨
      ∃ fault, came.1 = .error fault ∧ s.Makes level calls came.2 ∧
        ((∀ c ∈ calls, c.2 = none) → ¬ came.2.Live t rt))

/-- While an opaque value owns an object, every use gets at it: it is read, unboxed, printed, called and
handed over as it is, where there is a handle. Releasing the value says that it was there. -/
structure State.Gets (program : HostProgram ω) (level : Nat) (id : OpaqueId) (v : Value) (s : State ω) :
    Prop where
  reference : ∀ t, program.does level (.reference id) t s = (.ok v, s)
  isNil : ∀ t, ∃ b, program.does level (.isNil id) t s = (.ok (.bool b), s) ∧ (b = true ↔ v = .nil)
  absent : v = .nil → ∀ t, program.does level (.toPrimitive id) t s = (.ok .nil, s)
  unboxed : v ≠ .nil → ∀ t rt s₁, program.GetsHandle level t s rt s₁ → s₁.Live t rt →
    ∃ fault?, s₁.Makes level [(.unbox v, fault?)] (program.does level (.toPrimitive id) t s).2
  printed : ∀ t rt s₁, program.GetsHandle level t s rt s₁ →
    s₁.Prints level t rt v (program.does level (.printValue (.owner id)) t s)
  handed : ∀ t rt s₁, program.GetsHandle level t s rt s₁ → s₁.view id = some v →
    program.does level (.toHost (.reference id)) t s = (.ok v, s₁)
  called : ∀ t rt s₁ f args items arguments target, program.GetsHandle level t s rt s₁ →
    args.items? = some items → Action.argumentsIn args = .ok arguments → s.view f.inner = some target →
    (f.inner = id → target = v) ∧
    ((∃ values fault?, List.Forall₂ (fun item w => item.Shares id → w = v) items values ∧
      s₁.Makes level (boxings arguments ++ [(.invoke target "invoke" values, fault?)])
        (program.does level (.invoke f args) t s).2) ∨
      s₁.EndsEarly level t rt arguments (program.does level (.invoke f args) t s))
  released : ∀ t, program.does level (.released id) t s = (.ok (.bool false), s)
  release : ∀ t, program.does level (.release id) t s = (.ok (.bool true), s.releasing id)

/-- Once an opaque value has been released, every use says so and reaches no backend. A call that it is an
argument of ends early, that is with this fault unless boxing an argument before it fails. Releasing the value
again says that it was not there. -/
structure State.Refuses (program : HostProgram ω) (level : Nat) (id : OpaqueId) (s : State ω) : Prop where
  reference : ∀ t, program.does level (.reference id) t s = (.error Action.releasedBefore, s)
  isNil : ∀ t, program.does level (.isNil id) t s = (.error Action.releasedBefore, s)
  toPrimitive : ∀ t, program.does level (.toPrimitive id) t s = (.error Action.releasedBefore, s)
  printValue : ∀ t, program.does level (.printValue (.owner id)) t s = (.error Action.releasedBefore, s)
  toHost : ∀ t rt s₁, program.GetsHandle level t s rt s₁ →
    program.does level (.toHost (.reference id)) t s = (.error Action.releasedBefore, s₁)
  target : ∀ t f args arguments, f.inner = id → Action.argumentsIn args = .ok arguments →
    program.does level (.invoke f args) t s = (.error Action.releasedBefore, s)
  argument : ∀ t rt s₁ f args items arguments target, program.GetsHandle level t s rt s₁ →
    args.items? = some items → Action.argumentsIn args = .ok arguments → s.view f.inner = some target →
    (∃ item ∈ items, item.Shares id) →
    s₁.EndsEarly level t rt arguments (program.does level (.invoke f args) t s)
  released : ∀ t, program.does level (.released id) t s = (.ok (.bool true), s)
  release : ∀ t, program.does level (.release id) t s = (.ok (.bool false), s)

section Uses

variable {program : HostProgram ω} {level : Nat} {t : ThreadId} {s s₁ : State ω} {rt : HandleId}
  {id : OpaqueId} {v : Value}

private theorem HostProgram.GetsHandle.withRuntime {α : Type} (gets : program.GetsHandle level t s rt s₁)
    (body : HandleId → Action ω α) :
    (Action.withRuntime (program.host level) body).runOn t s = (body rt).runOn t s₁ := by
  rw [Action.withRuntime, Action.runOn_bind, gets]

private theorem HostProgram.GetsHandle.outlasts (gets : program.GetsHandle level t s rt s₁) : s.Outlasts s₁ := by
  have lasts := (program.outlasts level).currentRuntime t s
  rw [gets] at lasts
  exact lasts

private theorem runOn_printValue (host : Host ω) (id : OpaqueId) (t : ThreadId) (s : State ω) :
    ((Operation.printValue (.owner id)).run host).runOn t s =
      (((Action.printValue host id).runOn t s).1.map fun _ => .nil,
        ((Action.printValue host id).runOn t s).2) :=
  Action.runOn_bind_pure _ _ t s

private theorem runOn_released (id : OpaqueId) (t : ThreadId) (s : State ω) :
    (Action.released id : Action ω Bool).runOn t s = (.ok (s.view id).isNone, s) := rfl

/-- Releasing a value takes from it what it owns. -/
theorem runOn_release (id : OpaqueId) (t : ThreadId) (s : State ω) :
    (Action.release id : Action ω Bool).runOn t s = (.ok (s.view id).isSome, s.releasing id) := rfl

/-- A call reaches its function with the arguments handed over from where the thread got its handle, or it
ends early. -/
theorem HostProgram.GetsHandle.invoke_calls (gets : program.GetsHandle level t s rt s₁) {f : Callable}
    {args target : Value} {arguments : List Argument} (converted : Action.argumentsIn args = .ok arguments)
    (there : s.view f.inner = some target) :
    (∃ values s' fault?, HandsOver (program.host level) t rt arguments values s₁ s' ∧
      s₁.Makes level (boxings arguments ++ [(.invoke target "invoke" values, fault?)])
        (program.does level (.invoke f args) t s).2) ∨
      s₁.EndsEarly level t rt arguments (program.does level (.invoke f args) t s) := by
  have goes := gets.withRuntime (Action.callThrough (program.host level) target arguments)
  have calls := Action.callThrough_calls program level t rt target arguments s₁
  have does : program.does level (.invoke f args) t s =
      (((Action.invoke (program.host level) f args).runOn t s).1.map Value.owner,
        ((Action.invoke (program.host level) f args).runOn t s).2) := Action.runOn_bind_pure _ _ t s
  rw [does]
  cases ran : (Action.callThrough (program.host level) target arguments rt).runOn t s₁ with
  | mk result s' =>
  rw [ran] at goes calls
  cases result with
  | ok v =>
    rw [Action.runOn_invoke_ok converted there goes]
    rcases calls with ⟨values, s₂, fault?, handed, made⟩ | ⟨fault, calls, absurd, -⟩
    · exact .inl ⟨values, s₂, fault?, handed, made.to_eq rfl⟩
    · cases absurd
  | error fault =>
    rcases calls with ⟨values, s₂, fault?, handed, made⟩ | ⟨_, calls, ⟨⟩, made, boxes, ends⟩
    · obtain ⟨fault', l, ended⟩ := Action.runOn_invoke_error converted there goes
      rw [ended]
      exact .inl ⟨values, s₂, fault?, handed, made.to_eq rfl⟩
    · by_cases thrown : fault.IsHost
      · obtain ⟨l, ended⟩ := Action.runOn_invoke_of_host converted there thrown goes
        rw [ended]
        refine .inr ⟨_, calls, rfl, made.to_eq rfl, boxes, fun none live => ?_⟩
        rw [(ends none live).1] at thrown
        exact (Fault.not_isHost_of_kind rfl thrown).elim
      · rw [Action.runOn_invoke_of_other converted there thrown goes]
        exact .inr ⟨_, calls, rfl, made, boxes, ends⟩

private theorem State.Prints.cross {α : Type} {call : Call} (other : call.isInvoke = false) {f : Value → Action ω α}
    (rest : ∀ w (s' : State ω), s'.Prints level t rt v ((f w).runOn t s')) :
    s.Prints level t rt v ((Action.cross (program.host level) rt call >>= f).runOn t s) := by
  rcases Action.cross_bind_cases program level t s rt call f with
    ⟨fault, failed, made⟩ | ⟨fault, came, lost⟩ | ⟨w, s', made, came⟩
  · refine ⟨[(call, some fault)], fun c there => ?_, .inr ⟨fault, failed, made, fun none => ?_⟩⟩
    · rw [List.mem_singleton.mp there]
      exact other
    · cases none _ List.mem_cons_self
  · rw [came]
    exact ⟨[], fun _ there => (nomatch there), .inr ⟨fault, rfl, .of_eq rfl, fun _ => lost⟩⟩
  · rw [came]
    obtain ⟨calls, others, ends⟩ := rest w s'
    refine ⟨(call, none) :: calls, fun c there => ?_, ?_⟩
    · rcases List.mem_cons.mp there with rfl | later
      · exact other
      · exact others c later
    · rcases ends with ⟨out, shown, fault?, printed, same⟩ | ⟨fault, failed, made', lost⟩
      · exact .inl ⟨out, shown, fault?, made.trans printed, same⟩
      · refine .inr ⟨fault, failed, made.trans made', fun none => lost fun c there => ?_⟩
        exact none c (List.mem_cons_of_mem _ there)

private theorem State.Prints.last {shown : Value} (same : v ≠ .nil → shown = v) (out : Value) :
    s.Prints level t rt v
      ((discard (Action.invokeMethod (program.host level) rt out "println" [shown])).runOn t s) := by
  have crossed := Action.cross_cases program level t s rt (.invoke out "println" [shown])
  rw [Action.runOn_discard, Action.invokeMethod]
  rcases crossed with ⟨-, made⟩ | ⟨lost, message, refused⟩
  · exact ⟨[], fun _ there => (nomatch there), .inl ⟨out, shown, _, made, same⟩⟩
  · rw [refused]
    exact ⟨[], fun _ there => (nomatch there), .inr ⟨_, rfl, .of_eq rfl, fun _ => lost⟩⟩

/-- Print an object through a handle. -/
def Action.printing (host : Host ω) (ref : Value) (rt : HandleId) : Action ω Unit := do
  let system ← staticClass host rt (.text "java.lang.System")
  let out ← readField host rt system "out"
  discard <| invokeMethod host rt out "println" [← shown host rt ref]

private theorem Action.prints_printing (program : HostProgram ω) (level : Nat) (t : ThreadId) (rt : HandleId)
    (v : Value) (s : State ω) :
    s.Prints level t rt v ((printing (program.host level) v rt).runOn t s) := by
  refine State.Prints.cross (by rfl) fun system s₁ => State.Prints.cross (by rfl) fun out s₂ => ?_
  by_cases absent : v = .nil
  · subst absent
    exact State.Prints.cross (by rfl) fun w s₃ => State.Prints.last (fun present => (present rfl).elim) out
  · have shows : shown (program.host level) rt v = pure v := by
      unfold shown
      split
      · exact (absent rfl).elim
      · rfl
    rw [shows]
    exact State.Prints.last (fun _ => rfl) out

private theorem State.Prints.congr {α β : Type} {came : Except Fault α × State ω} {came' : Except Fault β × State ω}
    (prints : s.Prints level t rt v came) (state : came'.2 = came.2)
    (fails : ∀ fault, came.1 = .error fault → ∃ fault', came'.1 = .error fault') :
    s.Prints level t rt v came' := by
  obtain ⟨calls, others, ends⟩ := prints
  refine ⟨calls, others, ?_⟩
  rw [state]
  rcases ends with printed | ⟨fault, failed, made, lost⟩
  · exact .inl printed
  · obtain ⟨fault', failed'⟩ := fails fault failed
    exact .inr ⟨fault', failed', made, lost⟩

private theorem runOn_printValue_of_owned (host : Host ω) (owned : s.view id = some v) (t : ThreadId) :
    let printed := (Action.withRuntime host (Action.printing host v)).runOn t s
    let came := ((Operation.printValue (.owner id)).run host).runOn t s
    (∀ fault, printed.1 = .error fault → ∃ fault', came.1 = .error fault') ∧ came.2 = printed.2 := by
  have body : (Action.printValue host id).runOn t s = (Action.onHostFault
      (Action.withRuntime host (Action.printing host v)) fun fault =>
        return .fromHost .invocation "Printing value failed" fault).runOn t s := by
    rw [Action.printValue, Action.runOn_bind, Action.runOn_reference_of_owned owned]
    rfl
  rw [Action.runOn_onHostFault_pure] at body
  rw [runOn_printValue, body]
  refine ⟨fun fault failed => ?_, rfl⟩
  rw [failed]
  exact ⟨_, rfl⟩

/-- Owning nothing, a value refuses every use. -/
theorem State.refuses (program : HostProgram ω) (level : Nat) (made : id.index < s.owned.length)
    (gone : s.view id = none) : s.Refuses program level id where
  reference t := Action.runOn_reference_of_released gone t
  isNil t := by
    rw [HostProgram.does, Operation.run, Action.runOn_bind_pure, Action.isNil, Action.runOn_bind,
      Action.runOn_reference_of_released gone]
    rfl
  toPrimitive t := by
    rw [HostProgram.does, Operation.run, Action.toPrimitive, Action.runOn_bind,
      Action.runOn_reference_of_released gone]
  printValue t := by
    rw [HostProgram.does, runOn_printValue, Action.printValue, Action.runOn_bind,
      Action.runOn_reference_of_released gone]
    rfl
  toHost t rt s₁ gets := by
    rw [HostProgram.does, Operation.run, gets.withRuntime, Action.toHost]
    exact Action.runOn_reference_of_released (gets.outlasts.gone made gone) t
  target t f args arguments same converted := by
    have released : s.view f.inner = none := by rw [same, gone]
    rw [HostProgram.does, Operation.run, Action.runOn_bind_pure,
      Action.runOn_invoke_of_released converted released]
    rfl
  argument t rt s₁ f args items arguments target gets parts converted there shares := by
    rcases gets.invoke_calls converted there with ⟨values, s', fault?, handed, -⟩ | early
    · have lasts := gets.outlasts
      have shared := Argument.mem_of_shares (Argument.passed_of_argumentsIn parts converted) shares
      exact (handed.not_mem_of_gone (Nat.lt_of_lt_of_le made lasts.length) (lasts.gone made gone) shared).elim
    · exact early
  released t := by
    rw [HostProgram.does, Operation.run, Action.runOn_bind_pure, runOn_released, gone]
    rfl
  release t := by
    rw [HostProgram.does, Operation.run, Action.runOn_bind_pure, runOn_release, gone,
      State.releasing_of_gone gone]
    rfl

/-- Owning an object, a value gives it to every use. -/
theorem State.gets (program : HostProgram ω) (level : Nat) (owned : s.view id = some v) :
    s.Gets program level id v where
  reference t := Action.runOn_reference_of_owned owned t
  isNil t := by
    rw [HostProgram.does, Operation.run, Action.runOn_bind_pure, Action.isNil, Action.runOn_bind,
      Action.runOn_reference_of_owned owned]
    dsimp only
    split
    · exact ⟨true, rfl, by simp⟩
    · next present => exact ⟨false, rfl, by simpa using present⟩
  absent absent t := by
    rw [HostProgram.does, Operation.run, Action.toPrimitive, Action.runOn_bind,
      Action.runOn_reference_of_owned owned, absent]
    rfl
  unboxed present t rt s₁ gets live := by
    rw [HostProgram.does, Operation.run, Action.runOn_toPrimitive_of_present _ owned present,
      Action.state_of_runOn_converting, gets.withRuntime]
    rcases Action.cross_cases program level t s₁ rt (.unbox v) with ⟨-, made⟩ | ⟨lost, -⟩
    · exact ⟨_, made⟩
    · exact (lost live).elim
  printed t rt s₁ gets := by
    obtain ⟨fails, state⟩ := runOn_printValue_of_owned (program.host level) owned t
    rw [gets.withRuntime] at fails state
    exact (Action.prints_printing program level t rt v s₁).congr state fails
  handed t rt s₁ gets still := by
    rw [HostProgram.does, Operation.run, gets.withRuntime, Action.toHost]
    exact Action.runOn_reference_of_owned still t
  called t rt s₁ f args items arguments target gets parts converted there := by
    refine ⟨?_, ?_⟩
    · rintro rfl
      exact Option.some.inj (there.symm.trans owned)
    · rcases gets.invoke_calls converted there with ⟨values, s', fault?, handed, made⟩ | early
      · exact .inl ⟨values, fault?, Argument.forall₂_of_shares (Argument.passed_of_argumentsIn parts converted)
          (handed.forall₂ owned gets.outlasts), made⟩
      · exact .inr early
  released t := by
    rw [HostProgram.does, Operation.run, Action.runOn_bind_pure, runOn_released, owned]
    rfl
  release t := by
    rw [HostProgram.does, Operation.run, Action.runOn_bind_pure, runOn_release, owned]
    rfl

end Uses

end HostBridge
