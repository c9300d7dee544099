import HostBridge.Proofs.Boxing
import HostBridge.Proofs.Reentry

/-!
# The stages of a call

Calling a function goes through five stages: the arguments are converted, the function is looked at, the
thread is attached, the arguments are handed over from left to right, and the method is called. Each stage
is entered only when the ones before it have passed, and each has a fault of its own. Until the thread
attaches nothing reaches the host, and the function itself is reached at most once, with the arguments as
they were handed over.
-/

namespace HostBridge

variable {ω : Type}

/-! ### Attaching the thread -/

/-- What asking for the handle of a thread comes to, by what the thread has attached, with the calls that
are made for it. -/
inductive State.Attaches (s : State ω) (t : ThreadId) :
    Except Fault HandleId → State ω → List (Call × Option Fault) → Prop
  | attached {id : HandleId} (handle : (s.attachments t).handle? = some id) : s.Attaches t (.ok id) s []
  | failedBefore {failure : Fault} (handle : (s.attachments t).handle? = none)
      (failed : (s.attachments t).failure? = some failure) :
      s.Attaches t (.error (Action.attachedBefore failure)) s []
  | attaching (busy : s.attachments t = .busy) : s.Attaches t (.error Action.attachReentered) s []
  | attaches {id : HandleId} {s' : State ω} (none : s.attachments t = .none)
      (kept : s'.attachments t = ⟨some id, .none, false⟩) : s.Attaches t (.ok id) s' [(.attach, .none)]
  | fails {reason : Fault} {s' : State ω} (none : s.attachments t = .none)
      (kept : s'.attachments t = ⟨.none, some (Action.attachFault reason), false⟩) :
      s.Attaches t (.error (Action.attachFault reason)) s' [(.attach, some reason)]

namespace State.Attaches

variable {s s' : State ω} {t : ThreadId} {calls : List (Call × Option Fault)}

private theorem kind_of_error {fault : Fault} (attaches : s.Attaches t (.error fault) s' calls) :
    fault.kind? = some .attachment := by
  cases attaches with
  | failedBefore => rfl
  | attaching => rfl
  | fails =>
    unfold Action.attachFault
    split <;> rfl

end State.Attaches

/-- Asking for the handle of a thread whose cached handle is live gives a live handle, or fails, with at
most one call to attach. -/
theorem HostProgram.attaches (program : HostProgram ω) (level : Nat) {t : ThreadId} {s : State ω}
    (cached : ∀ id, (s.attachments t).handle? = some id → s.Live t id) :
    let came := (Action.currentRuntime (program.host level)).runOn t s
    ∃ calls, s.Makes level calls came.2 ∧ s.Attaches t came.1 came.2 calls ∧
      ∀ rt, came.1 = .ok rt → came.2.Live t rt := by
  rcases (s.attachments t).cases with ⟨id, handle⟩ | ⟨handle, fault, failure⟩ | busy | none
  · rw [Action.runOn_currentRuntime_of_handle _ handle]
    refine ⟨[], .of_eq rfl, .attached handle, ?_⟩
    rintro rt ⟨⟩
    exact cached id handle
  · rw [Action.runOn_currentRuntime_of_failure _ handle failure]
    exact ⟨[], .of_eq rfl, .failedBefore handle failure, fun _ absurd => nomatch absurd⟩
  · rw [Action.runOn_currentRuntime_of_busy _ busy]
    exact ⟨[], .of_eq rfl, .attaching busy, fun _ absurd => nomatch absurd⟩
  · rw [Action.runOn_currentRuntime_of_none _ none]
    obtain ⟨b, begun⟩ := Action.runOn_beginAttach none
    generalize hs₁ : ({ s.setAttachment t .busy with installed? := some b } : State ω) = s₁ at begun
    have marked : s₁.attachments t = .busy := by
      rw [← hs₁]
      exact s.attachments_setAttachment_self t .busy
    have made : s.Makes level [(.attach, Fault.of? ((program.host level .none b .attach).runOn t s₁).1)]
        ((program.host level .none b .attach).runOn t s₁).2 := by
      have first : s.Makes level [] s₁ := .of_eq (by rw [← hs₁]; rfl)
      exact first.trans (.host program level .none b .attach t s₁)
    have busy : ((program.host level .none b .attach).runOn t s₁).2.attachments t = .busy :=
      Attending.host program level .none b .attach t s₁ t marked
    cases came : (program.host level .none b .attach).runOn t s₁ with
    | mk result e =>
    rw [came] at made busy
    cases result with
    | ok v =>
      obtain ⟨l, ran⟩ := Action.runOn_attachThread_ok begun came busy
      rw [ran]
      have opened : e.Makes level [] (e.noting (.opened ⟨e.handles.length⟩)) :=
        .of_adds (.noting e rfl)
      refine ⟨_, (made.trans opened).to_eq rfl, .attaches none ?_, ?_⟩
      · exact State.attachments_setAttachment_self _ _ _
      · rintro rt ⟨⟩
        exact (e.live_opening b t t _).mpr (.inr ⟨rfl, rfl⟩)
    | error reason =>
      obtain ⟨l, ran⟩ := Action.runOn_attachThread_error begun came busy
      rw [ran]
      refine ⟨_, made.to_eq rfl, .fails none ?_, fun _ absurd => nomatch absurd⟩
      exact State.attachments_setAttachment_self _ _ _

/-! ### How a call goes -/

/-- A call to attach may fail in any way; boxing may not fail, and methods only as the host does. -/
def Call.Bears (fault : Fault) : Call → Prop
  | .box _ => False
  | .invoke .. => fault.IsHost
  | _ => True

/-- No call fails in a way that it may not. -/
def Behaved (calls : List (Call × Option Fault)) : Prop :=
  ∀ call fault, (call, some fault) ∈ calls → call.Bears fault

/-- A call has come to its handle with a target, and has handed the first of its arguments over as these
values. -/
structure Underway (host : Host ω) (f : Callable) (args : Value) (t : ThreadId) (s : State ω)
    (target : Value) (rt : HandleId) (handed rest : List Argument) (values : List Value) (s' : State ω)
    (calls : List (Call × Option Fault)) : Prop where
  given : args.Gives (handed ++ rest)
  there : s.view f.inner = some target
  attached : ∃ s₁ attempt, s.Attaches t (.ok rt) s₁ attempt ∧ s₁.Live t rt ∧
    HandsOver host t rt handed values s₁ s' ∧ calls = attempt ++ boxings handed

/-- How a call goes: its first stage that does not pass, with the calls that are made until then. -/
inductive CallGoes (host : Host ω) (f : Callable) (args : Value) (t : ThreadId) (s : State ω) :
    Except Fault OpaqueId → State ω → List (Call × Option Fault) → Prop
  /-- A text is not taken for arguments. -/
  | textual (textual : args.IsTextual) :
      CallGoes host f args t s (.error (Action.textForArguments args)) s []
  /-- Neither is a value without parts. -/
  | partless (other : ¬ args.IsTextual) (none : args.items? = none) :
      CallGoes host f args t s (.error args.notIterable) s []
  /-- The first argument that cannot be converted. Nothing is said of the fault where an integer is too long to be
  shown. -/
  | refused {before after : List Value} {v : Value} {arguments : List Argument} {fault : Fault}
      (other : ¬ args.IsTextual) (items : args.items? = some (before ++ v :: after))
      (passed : Argument.Passed before arguments) (refused : Argument.ofValue v = .error fault)
      (kind : v.exceedsDigits = false →
        ∃ message, fault = .standard .type message ∨ fault = .standard .overflow message) :
      CallGoes host f args t s (.error fault) s []
  /-- The function has been released. -/
  | released {arguments : List Argument} (given : args.Gives arguments) (gone : s.view f.inner = none) :
      CallGoes host f args t s (.error Action.releasedBefore) s []
  /-- The thread does not attach. -/
  | unattached {arguments : List Argument} {target : Value} {fault : Fault} {s' : State ω}
      {attempt : List (Call × Option Fault)} (given : args.Gives arguments)
      (there : s.view f.inner = some target) (fails : s.Attaches t (.error fault) s' attempt)
      (kind : fault.kind? = some .attachment) :
      CallGoes host f args t s (.error fault) s' attempt
  /-- The first argument that has been released. -/
  | argumentReleased {target : Value} {rt : HandleId} {handed rest : List Argument} {id : OpaqueId}
      {values : List Value} {s' : State ω} {calls : List (Call × Option Fault)}
      (underway : Underway host f args t s target rt handed (.reference id :: rest) values s' calls)
      (gone : s'.view id = none) : CallGoes host f args t s (.error Action.releasedBefore) s' calls
  /-- The host fails the call. -/
  | failed {target : Value} {rt : HandleId} {arguments : List Argument} {values : List Value}
      {s' s'' : State ω} {calls : List (Call × Option Fault)} {fault : Fault} {l : List LogEntry}
      (underway : Underway host f args t s target rt arguments [] values s' calls)
      (thrown : fault.IsHost)
      (came : (Action.invokeMethod host rt target "invoke" values).runOn t s' = (.error fault, s'')) :
      CallGoes host f args t s (.error (Action.callFault f fault)) { s'' with log := l }
        (calls ++ [(.invoke target "invoke" values, some fault)])
  /-- The call returns. -/
  | returned {target v : Value} {rt : HandleId} {arguments : List Argument} {values : List Value}
      {s' s'' : State ω} {calls : List (Call × Option Fault)}
      (underway : Underway host f args t s target rt arguments [] values s' calls)
      (came : (Action.invokeMethod host rt target "invoke" values).runOn t s' = (.ok v, s'')) :
      CallGoes host f args t s (.ok ⟨s''.owned.length⟩) (s''.owning v)
        (calls ++ [(.invoke target "invoke" values, none)])

/-- Boxing an argument called back to detach the handle that the call is made through: the call ends with
that. -/
def LosesHandle (host : Host ω) (f : Callable) (args : Value) (t : ThreadId) (s : State ω)
    (result : Except Fault OpaqueId) (s' : State ω) (calls : List (Call × Option Fault)) : Prop :=
  ∃ target rt handed rest values message,
    Underway host f args t s target rt handed rest values s' calls ∧ ¬ s'.Live t rt ∧
      result = .error (.plain .bridge message)

/-- With a host that boxes in place no handle is lost. -/
theorem Host.BoxesInPlace.not_losesHandle {host : Host ω} {f : Callable} {args : Value} {t : ThreadId}
    {s s' : State ω} {result : Except Fault OpaqueId} {calls : List (Call × Option Fault)}
    (inPlace : host.BoxesInPlace t) : ¬ LosesHandle host f args t s result s' calls := by
  rintro ⟨target, rt, handed, rest, values, message, underway, lost, -⟩
  obtain ⟨s₁, attempt, -, live, begun, -⟩ := underway.attached
  exact lost (begun.live (inPlace rt) live)

namespace HostProgram

variable {program : HostProgram ω} {level : Nat} {f : Callable} {args target : Value} {t : ThreadId}
  {s s₁ : State ω} {arguments : List Argument} {rt : HandleId} {attempt : List (Call × Option Fault)}

/-- A call goes by its stages. -/
def GoesByStages (program : HostProgram ω) (level : Nat) (f : Callable) (args : Value) (t : ThreadId)
    (s : State ω) : Prop :=
  let came := (Action.invoke (program.host level) f args).runOn t s
  ∃ calls, s.Makes level calls came.2 ∧
    (Behaved calls → CallGoes (program.host level) f args t s came.1 came.2 calls ∨
      LosesHandle (program.host level) f args t s came.1 came.2 calls)

private theorem goesByStages_of_handed {values : List Value} {s' : State ω}
    {calls : List (Call × Option Fault)}
    (converted : Action.argumentsIn args = .ok arguments)
    (underway : Underway (program.host level) f args t s target rt arguments [] values s' calls)
    (made : s.Makes level calls s')
    (goes : ∀ result s'',
      (Action.invokeMethod (program.host level) rt target "invoke" values).runOn t s' = (result, s'') →
      (Action.withRuntime (program.host level)
        (Action.callThrough (program.host level) target arguments)).runOn t s = (result, s'')) :
    program.GoesByStages level f args t s := by
  unfold GoesByStages
  have crossed := Action.cross_cases program level t s' rt (.invoke target "invoke" values)
  cases came : (Action.invokeMethod (program.host level) rt target "invoke" values).runOn t s' with
  | mk result s'' =>
  rw [show (Action.cross (program.host level) rt _).runOn t s' = (result, s'') from came] at crossed
  rcases crossed with ⟨-, reached⟩ | ⟨lost, message, refused⟩
  · have all := made.trans reached
    cases result with
    | ok v =>
      rw [Action.runOn_invoke_ok converted underway.there (goes _ _ came)]
      exact ⟨_, all.to_eq rfl, fun _ => .inl (.returned underway came)⟩
    | error fault =>
      by_cases thrown : fault.IsHost
      · obtain ⟨l, ran⟩ := Action.runOn_invoke_of_host converted underway.there thrown (goes _ _ came)
        rw [ran]
        exact ⟨_, all.to_eq rfl, fun _ => .inl (.failed underway thrown came)⟩
      · rw [Action.runOn_invoke_of_other converted underway.there thrown (goes _ _ came)]
        refine ⟨_, all, fun behaved => (thrown ?_).elim⟩
        exact behaved _ fault (List.mem_append_right _ List.mem_cons_self)
  · cases refused
    rw [Action.runOn_invoke_of_other converted underway.there (Fault.not_isHost_of_kind rfl)
      (goes _ _ came)]
    exact ⟨_, made, fun _ => .inr ⟨_, _, _, _, _, _, underway, lost, rfl⟩⟩

private theorem goesByStages_of_attached (given : args.Gives arguments)
    (converted : Action.argumentsIn args = .ok arguments) (there : s.view f.inner = some target)
    (runtime : (Action.currentRuntime (program.host level)).runOn t s = (.ok rt, s₁))
    (attaches : s.Attaches t (.ok rt) s₁ attempt) (live : s₁.Live t rt)
    (tried : s.Makes level attempt s₁) : program.GoesByStages level f args t s := by
  have goes : (Action.withRuntime (program.host level)
      (Action.callThrough (program.host level) target arguments)).runOn t s =
        (Action.callThrough (program.host level) target arguments rt).runOn t s₁ := by
    rw [Action.withRuntime, Action.runOn_bind, runtime]
  rcases Action.allToHost_cases (program.host level) t rt arguments s₁ with
    ⟨values, s', handed, ran⟩ | ⟨handed, a, rest, values, s', fault, s'', rfl, begun, failed, ran⟩
  · refine goesByStages_of_handed converted
      ⟨by rwa [List.append_nil], there, s₁, attempt, attaches, live, handed, rfl⟩
      (tried.trans handed.makes) fun result s'' came => ?_
    rw [goes, Action.callThrough, Action.runOn_bind, ran]
    exact came
  · have underway : Underway (program.host level) f args t s target rt handed (a :: rest) values s'
        (attempt ++ boxings handed) := ⟨given, there, s₁, attempt, attaches, live, begun, rfl⟩
    have made : s.Makes level (attempt ++ boxings handed) s' := tried.trans begun.makes
    have went : (Action.withRuntime (program.host level)
        (Action.callThrough (program.host level) target (handed ++ a :: rest))).runOn t s =
          (.error fault, s'') := by
      rw [goes, Action.callThrough, Action.runOn_bind, ran]
    unfold GoesByStages
    cases a with
    | reference id =>
      cases owned : s'.view id with
      | some v =>
        rw [Action.toHost, Action.runOn_reference_of_owned owned] at failed
        cases failed
      | none =>
        rw [Action.toHost, Action.runOn_reference_of_released owned] at failed
        cases failed
        rw [Action.runOn_invoke_of_other converted there (Fault.not_isHost_of_kind rfl) went]
        exact ⟨_, made, fun _ => .inl (.argumentReleased underway owned)⟩
    | primitive p fits =>
      have crossed := Action.cross_cases program level t s' rt (.box (.ofScalar p))
      rw [show (Action.cross (program.host level) rt _).runOn t s' = (.error fault, s'') from failed]
        at crossed
      rcases crossed with ⟨-, reached⟩ | ⟨lost, message, refused⟩
      · obtain ⟨fault', l, ended⟩ := Action.runOn_invoke_error converted there went
        rw [ended]
        refine ⟨_, (made.trans reached).to_eq rfl, fun behaved => ?_⟩
        exact (behaved _ fault (List.mem_append_right _ List.mem_cons_self)).elim
      · cases refused
        rw [Action.runOn_invoke_of_other converted there (Fault.not_isHost_of_kind rfl) went]
        exact ⟨_, made, fun _ => .inr ⟨_, _, _, _, _, _, underway, lost, rfl⟩⟩

/-- Whatever the host does, a call goes by its stages. -/
theorem goesByStages (program : HostProgram ω) (level : Nat) (f : Callable) (args : Value)
    {t : ThreadId} {s : State ω}
    (cached : ∀ id, (s.attachments t).handle? = some id → s.Live t id) :
    program.GoesByStages level f args t s := by
  unfold GoesByStages
  by_cases textual : args.IsTextual
  · rw [Action.runOn_invoke_of_refused (Action.argumentsIn_of_textual textual)]
    exact ⟨[], .of_eq rfl, fun _ => .inl (.textual textual)⟩
  cases parts : args.items? with
  | none =>
    rw [Action.runOn_invoke_of_refused (Action.argumentsIn_of_none textual parts)]
    exact ⟨[], .of_eq rfl, fun _ => .inl (.partless textual parts)⟩
  | some items =>
  have conversion := Action.argumentsIn_of_some textual parts
  rcases Argument.ofValues_cases items with
    ⟨arguments, converted, passed⟩ | ⟨before, v, after, arguments, fault, rfl, passed, refused, failed⟩
  · rw [← conversion] at converted
    have given : args.Gives arguments := ⟨textual, items, parts, passed⟩
    cases there : s.view f.inner with
    | none =>
      rw [Action.runOn_invoke_of_released converted there]
      exact ⟨[], .of_eq rfl, fun _ => .inl (.released given there)⟩
    | some target =>
    obtain ⟨attempt, tried, attaches, live⟩ := program.attaches level cached
    cases runtime : (Action.currentRuntime (program.host level)).runOn t s with
    | mk result s₁ =>
    rw [runtime] at tried attaches live
    cases result with
    | ok rt =>
      exact goesByStages_of_attached given converted there runtime attaches (live rt rfl) tried
    | error fault =>
      have kind : fault.kind? = some .attachment := attaches.kind_of_error
      have went : (Action.withRuntime (program.host level)
          (Action.callThrough (program.host level) target arguments)).runOn t s = (.error fault, s₁) := by
        rw [Action.withRuntime, Action.runOn_bind, runtime]
      rw [Action.runOn_invoke_of_other converted there (Fault.not_isHost_of_kind kind) went]
      exact ⟨attempt, tried, fun _ => .inl (.unattached given there attaches kind)⟩
  · rw [← conversion] at failed
    rw [Action.runOn_invoke_of_refused failed]
    refine ⟨[], .of_eq rfl, fun _ => .inl (.refused textual parts passed refused ?_)⟩
    exact Argument.kind_of_refused refused

end HostProgram

/-- The hosts at hand box in place, so calls to them go by their stages without exception. -/
theorem hosts_callGoes (level : Nat) (f : Callable) (args : Value) {t : ThreadId} {s : State Worlds}
    (cached : ∀ id, (s.attachments t).handle? = some id → s.Live t id) :
    let came := (Action.invoke (hosts.host level) f args).runOn t s
    ∃ calls, s.Makes level calls came.2 ∧
      (Behaved calls → CallGoes (hosts.host level) f args t s came.1 came.2 calls) := by
  obtain ⟨calls, made, goes⟩ := hosts.goesByStages level f args cached
  have inPlace := hosts_boxesAlone.boxesInPlace level t
  exact ⟨calls, made, fun behaved => (goes behaved).resolve_right inPlace.not_losesHandle⟩

/-! ### How often the function is reached -/

/-- Is it a call of a method? -/
def Call.isInvoke : Call → Bool
  | .invoke .. => true
  | _ => false

private theorem State.Attaches.filter_isInvoke {s s' : State ω} {t : ThreadId} {result : Except Fault HandleId}
    {calls : List (Call × Option Fault)} (attaches : s.Attaches t result s' calls) :
    calls.filter (·.1.isInvoke) = [] := by
  cases attaches <;> rfl

private theorem filter_isInvoke_boxings (arguments : List Argument) :
    (boxings arguments).filter (·.1.isInvoke) = [] := by
  induction arguments with
  | nil => rfl
  | cons a rest ih =>
    cases a with
    | reference id => exact ih
    | primitive p fits => rw [boxings, List.filter_cons_of_neg Bool.false_ne_true, ih]

private theorem Underway.filter_isInvoke {host : Host ω} {f : Callable} {args target : Value} {t : ThreadId}
    {s s' : State ω} {rt : HandleId} {handed rest : List Argument} {values : List Value}
    {calls : List (Call × Option Fault)}
    (underway : Underway host f args t s target rt handed rest values s' calls) :
    calls.filter (·.1.isInvoke) = [] := by
  obtain ⟨s₁, attempt, attaches, -, -, rfl⟩ := underway.attached
  rw [List.filter_append, attaches.filter_isInvoke, filter_isInvoke_boxings, List.append_nil]

private theorem Underway.length_values {host : Host ω} {f : Callable} {args target : Value} {t : ThreadId}
    {s s' : State ω} {rt : HandleId} {arguments : List Argument} {values : List Value}
    {calls : List (Call × Option Fault)}
    (underway : Underway host f args t s target rt arguments [] values s' calls) :
    args.items?.map List.length = some values.length := by
  obtain ⟨s₁, attempt, -, -, handed, -⟩ := underway.attached
  obtain ⟨items, parts, passed⟩ := underway.given.passed
  rw [List.append_nil] at passed
  rw [parts, Option.map_some, handed.length_eq, List.Forall₂.length_eq passed]

/-- A call either calls no method, or one: that of the function, with as many values as it was given. -/
theorem CallGoes.reaches_once {host : Host ω} {f : Callable} {args : Value} {t : ThreadId}
    {s s' : State ω} {result : Except Fault OpaqueId} {calls : List (Call × Option Fault)}
    (goes : CallGoes host f args t s result s' calls) :
    (calls.filter (·.1.isInvoke) = []) ∨
      ∃ target values fault?, s.view f.inner = some target ∧
        calls.filter (·.1.isInvoke) = [(.invoke target "invoke" values, fault?)] ∧
        args.items?.map List.length = some values.length := by
  cases goes with
  | textual | partless | refused | released => exact .inl rfl
  | unattached given there fails => exact .inl fails.filter_isInvoke
  | argumentReleased underway gone => exact .inl underway.filter_isInvoke
  | @failed _ _ _ _ _ _ _ fault _ underway thrown came =>
    refine .inr ⟨_, _, some fault, underway.there, ?_, underway.length_values⟩
    rw [List.filter_append, underway.filter_isInvoke]
    rfl
  | returned underway came =>
    refine .inr ⟨_, _, none, underway.there, ?_, underway.length_values⟩
    rw [List.filter_append, underway.filter_isInvoke]
    rfl

/-- A call that loses its handle on the way calls no method. -/
theorem LosesHandle.filter_isInvoke {host : Host ω} {f : Callable} {args : Value} {t : ThreadId}
    {s s' : State ω} {result : Except Fault OpaqueId} {calls : List (Call × Option Fault)}
    (loses : LosesHandle host f args t s result s' calls) : calls.filter (·.1.isInvoke) = [] := by
  obtain ⟨_, _, _, _, _, _, underway, -⟩ := loses
  exact underway.filter_isInvoke

/-- A call of a function ends at its first stage that does not pass, with the fault and the state that
belong to it, after just those calls to the host that belong to the stages before, unless boxing an argument
detached the handle of the thread on the way. At most one of the calls calls a method, and that one has as
many arguments as the function was given. -/
theorem call_goes_by_stages (program : HostProgram ω) (level : Nat) (f : Callable) (args : Value)
    {t : ThreadId} {s : State ω}
    (cached : ∀ id, (s.attachments t).handle? = some id → s.Live t id) :
    let host := program.host level
    let came := (Action.invoke host f args).runOn t s
    ∃ calls, s.Makes level calls came.2 ∧ (Behaved calls →
      (CallGoes host f args t s came.1 came.2 calls ∨ LosesHandle host f args t s came.1 came.2 calls) ∧
      (host.BoxesInPlace t → CallGoes host f args t s came.1 came.2 calls) ∧
      (calls.filter (·.1.isInvoke) = [] ∨
        ∃ target values fault?, s.view f.inner = some target ∧
          calls.filter (·.1.isInvoke) = [(.invoke target "invoke" values, fault?)] ∧
          args.items?.map List.length = some values.length)) := by
  obtain ⟨calls, made, goes⟩ := program.goesByStages level f args cached
  refine ⟨calls, made, fun behaved => ⟨goes behaved, fun inPlace => ?_, ?_⟩⟩
  · exact (goes behaved).resolve_right inPlace.not_losesHandle
  · rcases goes behaved with stages | loses
    · exact stages.reaches_once
    · exact .inl loses.filter_isInvoke

/-- A host that boxes a value as itself, and whose functions give their arguments. -/
def echoingHost : HostProgram Unit := fun _ _ _ call w =>
  match call with
  | .box v => .answer w (.ok v)
  | .invoke _ _ args => .answer w (.ok (.list args))
  | _ => .answer w (.ok .nil)

/-- A function and an object, both owned, and a thread with nothing attached. -/
def echoingStart : State Unit :=
  { State.initial (.ofSettings .nil []) () with owned := [some (.symbol "f"), some (.symbol "a")] }

/-- The echoing host is called with a number and an object: the thread attaches, only the number is boxed,
and the function gets both. -/
theorem call_goes_by_stages_echoing :
    CallGoes (echoingHost.host nestingLimit) ⟨⟨0⟩, none, none⟩ (.tuple [.int 1, .owner ⟨1⟩]) .main
      echoingStart (.ok ⟨2⟩)
      ((Action.invoke (echoingHost.host nestingLimit) ⟨⟨0⟩, none, none⟩
        (.tuple [.int 1, .owner ⟨1⟩])).runOn .main echoingStart).2
      [(.attach, none), (.box (.int 1), none),
        (.invoke (.symbol "f") "invoke" [.int 1, .symbol "a"], none)] := by
  have cached : ∀ id, (echoingStart.attachments .main).handle? = some id → echoingStart.Live .main id :=
    fun _ absurd => nomatch absurd
  obtain ⟨calls, ⟨trail, grown, made⟩, goes⟩ := call_goes_by_stages echoingHost nestingLimit
    ⟨⟨0⟩, none, none⟩ (.tuple [.int 1, .owner ⟨1⟩]) cached
  have whole : trail = _ := (List.append_nil trail).symm.trans grown.symm
  rw [whole] at made
  subst made
  have alone : echoingHost.BoxesAlone := fun _ _ _ _ _ _ _ => trivial
  refine (goes ?_).2.1 (alone.boxesInPlace nestingLimit .main)
  intro call fault failed
  replace failed : (call, some fault) ∈ [(Call.attach, none), (.box (.int 1), none),
    (.invoke (.symbol "f") "invoke" [.int 1, .symbol "a"], none)] := failed
  simp at failed

/-- A host that calls back to detach the thread when it boxes a value. -/
def detachingHost : HostProgram Unit := fun _ _ _ call w =>
  match call with
  | .box v => .callBack w (.perform .detachRuntime) fun _ w => .answer w (.ok v)
  | _ => .answer w (.ok .nil)

/-- A call may end with faults that belong to none of its stages. When boxing its argument calls back to detach the
thread, it ends with a general fault of the bridge, before any method is called; and an integer that is too long to be
shown is not refused for being too large. -/
theorem call_may_end_outside_stages :
    (∃ s', (Action.invoke (detachingHost.host nestingLimit) ⟨⟨0⟩, none, none⟩ (.tuple [.int 1])).runOn .main
        echoingStart = (.error (.plain .bridge "Runtime handle used after detach"), s') ∧
      echoingStart.Makes nestingLimit [(.attach, none), (.box (.int 1), none)] s' ∧
      Behaved [(.attach, none), (.box (.int 1), none)]) ∧
    ∃ fault, (Action.invoke (echoingHost.host nestingLimit) ⟨⟨0⟩, none, none⟩ (.tuple [.int longInteger])).runOn .main
        echoingStart = (.error fault, echoingStart) ∧ fault.className = "ValueError" := by
  refine ⟨⟨_, rfl, ⟨_, (List.append_nil _).symm, rfl⟩, ?_⟩, tooLongToShow, ?_, rfl⟩
  · intro call fault failed
    simp at failed
  · refine Action.runOn_invoke_of_refused ?_ .main echoingStart
    change Argument.ofValues [.int longInteger] = _
    rw [Argument.ofValues, ofValue_longInteger]
    rfl

end HostBridge
