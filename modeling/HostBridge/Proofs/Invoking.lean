import Mathlib.Data.List.Forall2
import HostBridge.Proofs.HandleInvariant
import HostBridge.Proofs.HostFaults

/-!
# Calling a function

What the parts of a call come to: the arguments are converted one by one, a call through a handle reaches the
host if the handle is live, the arguments are handed over from left to right, and the fault of the host is
reported with the name of the function. Callables that own the same object under the same name are called in
the same way.
-/

namespace HostBridge

variable {ω : Type}

/-! ### Converting the arguments -/

namespace Argument

/-- Each value is passed as the argument in its place. -/
def Passed (values : List Value) (arguments : List Argument) : Prop :=
  List.Forall₂ (fun v a => ofValue v = .ok a) values arguments

theorem ofValue_ofScalar (s : Scalar) : ofValue (Value.ofScalar s) = ofScalar s := by
  cases s <;> rfl

/-- What does not fit is not passed. -/
theorem ofScalar_of_not_fits {s : Scalar} (tooLong : ¬ s.primitive.FitsLong) :
    ofScalar s = .error s.primitive.tooLong := dif_neg tooLong

private theorem ofScalar_error {s : Scalar} {fault : Fault} (refused : ofScalar s = .error fault)
    (shown : s.primitive.exceedsDigits = false) : ∃ message, fault = .standard .overflow message := by
  unfold ofScalar at refused
  split at refused
  · cases refused
  · cases refused
    exact ⟨_, by rw [Primitive.tooLong, Primitive.outOfRange, if_neg (ne_true_of_eq_false shown)]⟩

/-- A value that is refused is of the wrong kind, or too large, as long as it can be shown. -/
theorem kind_of_refused {v : Value} {fault : Fault} (refused : ofValue v = .error fault)
    (shown : v.exceedsDigits = false) :
    ∃ message, fault = .standard .type message ∨ fault = .standard .overflow message := by
  unfold ofValue at refused
  split at refused
  · cases refused
  · cases refused
  · cases refused
  · obtain ⟨message, rfl⟩ := ofScalar_error refused shown
    exact ⟨message, .inr rfl⟩
  · obtain ⟨message, rfl⟩ := ofScalar_error refused shown
    exact ⟨message, .inr rfl⟩
  · cases refused
    exact ⟨_, .inl rfl⟩

/-- Several values are passed one by one, or the first one that is refused decides. -/
theorem ofValues_cases (values : List Value) :
    (∃ arguments, ofValues values = .ok arguments ∧ Passed values arguments) ∨
      ∃ before v after arguments fault, values = before ++ v :: after ∧ Passed before arguments ∧
        ofValue v = .error fault ∧ ofValues values = .error fault := by
  induction values with
  | nil => exact .inl ⟨[], rfl, .nil⟩
  | cons v rest ih =>
    cases converted : ofValue v with
    | error fault =>
      refine .inr ⟨[], v, rest, [], fault, rfl, .nil, converted, ?_⟩
      rw [ofValues, converted]
      rfl
    | ok a =>
      rcases ih with ⟨arguments, passed, each⟩ |
        ⟨before, u, after, arguments, fault, rfl, each, refused, failed⟩
      · refine .inl ⟨a :: arguments, ?_, .cons converted each⟩
        rw [ofValues, converted, passed]
        rfl
      · refine .inr ⟨v :: before, u, after, a :: arguments, fault, rfl, .cons converted each, refused,
          ?_⟩
        rw [ofValues, converted, failed]
        rfl

end Argument

/-- The first integer that is too long to be shown. -/
def longInteger : Int := (Number.tenTo digitLimit : Nat)

theorem exceedsDigits_longInteger : (Primitive.int longInteger).exceedsDigits = true := by
  rw [Primitive.exceedsDigits, longInteger, Int.natAbs_natCast]
  exact decide_eq_true (Nat.le_refl _)

theorem not_fitsLong_longInteger : ¬ (Primitive.int longInteger).FitsLong := by
  have large : Number.tenTo 19 ≤ Number.tenTo digitLimit := Number.tenTo_le_tenTo (by decide)
  have greatest : Primitive.greatestLong < (Number.tenTo 19 : Nat) := by decide
  rintro ⟨-, fits⟩
  unfold longInteger at fits
  omega

/-- An integer that is too long to be shown is refused for that, and not for its size. -/
theorem ofValue_longInteger : Argument.ofValue (.int longInteger) = .error tooLongToShow := by
  have refused := (Argument.ofValue_ofScalar (.plain (.int longInteger))).trans
    (Argument.ofScalar_of_not_fits not_fitsLong_longInteger)
  rw [Scalar.primitive, Primitive.tooLong, Primitive.outOfRange, if_pos exceedsDigits_longInteger] at refused
  exact refused

/-- Is it a text, of whatever class, or bytes? Those have parts, but are no arguments. -/
def Value.IsTextual (v : Value) : Prop := (∃ text, v.plain = .text text) ∨ ∃ data, v.plain = .bytes data

namespace Action

/-- Texts and bytes are refused as such. -/
theorem argumentsIn_of_textual {args : Value} (textual : args.IsTextual) :
    argumentsIn args = .error (textForArguments args) := by
  rcases textual with ⟨text, same⟩ | ⟨data, same⟩ <;> rw [argumentsIn, same]

/-- Values without parts are refused. -/
theorem argumentsIn_of_none {args : Value} (other : ¬ args.IsTextual) (none : args.items? = none) :
    argumentsIn args = .error args.notIterable := by
  unfold argumentsIn
  split
  next same => exact (other (.inl ⟨_, same⟩)).elim
  next same => exact (other (.inr ⟨_, same⟩)).elim
  · rw [none]

/-- The parts of other values are converted. -/
theorem argumentsIn_of_some {args : Value} (other : ¬ args.IsTextual) {items : List Value}
    (some : args.items? = some items) : argumentsIn args = Argument.ofValues items := by
  unfold argumentsIn
  split
  next same => exact (other (.inl ⟨_, same⟩)).elim
  next same => exact (other (.inr ⟨_, same⟩)).elim
  · rw [some]

end Action

/-- A value gives these arguments: it is no text, and its parts are passed as them. -/
structure Value.Gives (args : Value) (arguments : List Argument) : Prop where
  other : ¬ args.IsTextual
  passed : ∃ items, args.items? = some items ∧ Argument.Passed items arguments

/-! ### Calls through a handle -/

namespace Action

variable {level : Nat} {t : ThreadId} {s s' : State ω} {id : HandleId} {call : Call}

/-- A handle that is not live is refused. -/
theorem runOn_checked_of_not_live (gone : ¬ s.Live t id) :
    ∃ message, (checked id).runOn t s = (.error (.plain .bridge message), s) := by
  cases found : s.handles[id.index]? with
  | none => exact ⟨_, by simp [checked, found]; rfl⟩
  | some h =>
    apply runOn_checked_of_stale found
    by_contra both
    rw [not_or, Bool.not_eq_true, not_not] at both
    exact gone ⟨h, found, both.2, both.1⟩

/-- A call through a live handle reaches its backend. -/
theorem runOn_cross_of_live (host : Host ω) (live : s.Live t id) (call : Call) :
    ∃ b, (cross host id call).runOn t s = (host (some id) b call).runOn t s := by
  obtain ⟨h, found, owner, attached⟩ := live
  refine ⟨h.backend, ?_⟩
  rw [cross, runOn_bind, runOn_checked_of_live found attached owner]

/-- A call through a handle is made if the handle is live, and refused without a call otherwise. -/
theorem cross_cases (program : HostProgram ω) (level : Nat) (t : ThreadId) (s : State ω)
    (id : HandleId) (call : Call) :
    let came := (cross (program.host level) id call).runOn t s
    (s.Live t id ∧ s.Makes level [(call, Fault.of? came.1)] came.2) ∨
      (¬ s.Live t id ∧ ∃ message, came = (.error (.plain .bridge message), s)) := by
  by_cases live : s.Live t id
  · obtain ⟨b, reached⟩ := runOn_cross_of_live (program.host level) live call
    rw [reached]
    exact .inl ⟨live, .host program level (some id) b call t s⟩
  · obtain ⟨message, refused⟩ := runOn_checked_of_not_live live
    exact .inr ⟨live, message, runOn_cross_error _ call refused⟩

private theorem makes_of_cross_ok {program : HostProgram ω} {v : Value}
    (came : (cross (program.host level) id call).runOn t s = (.ok v, s')) :
    s.Makes level [(call, none)] s' := by
  rcases cross_cases program level t s id call with ⟨-, made⟩ | ⟨-, message, refused⟩
  · rw [came] at made
    exact made
  · rw [came] at refused
    cases refused

end Action

/-! ### Handing the arguments over -/

/-- The calls that hand arguments over: primitives are boxed, references are not. -/
def boxings : List Argument → List (Call × Option Fault)
  | [] => []
  | .reference _ :: rest => boxings rest
  | .primitive p _ :: rest => (.box (.ofScalar p), none) :: boxings rest

/-- Arguments are handed over from left to right: a reference as the very object that is owned, a primitive
as what boxing it gives. -/
inductive HandsOver (host : Host ω) (t : ThreadId) (rt : HandleId) :
    List Argument → List Value → State ω → State ω → Prop
  | nil {s : State ω} : HandsOver host t rt [] [] s s
  | reference {id : OpaqueId} {v : Value} {rest : List Argument} {vs : List Value} {s s' : State ω}
      (owned : s.view id = some v) (others : HandsOver host t rt rest vs s s') :
      HandsOver host t rt (.reference id :: rest) (v :: vs) s s'
  | primitive {p : Scalar} {fits : p.primitive.FitsLong} {v : Value} {rest : List Argument}
      {vs : List Value} {s s₁ s' : State ω} (boxed : (Action.box host rt (.ofScalar p)).runOn t s = (.ok v, s₁))
      (others : HandsOver host t rt rest vs s₁ s') :
      HandsOver host t rt (.primitive p fits :: rest) (v :: vs) s s'

namespace HandsOver

variable {host : Host ω} {t : ThreadId} {rt : HandleId} {arguments : List Argument}
  {values : List Value} {s s' : State ω}

/-- As many values are handed over as there are arguments. -/
theorem length_eq (handed : HandsOver host t rt arguments values s s') :
    values.length = arguments.length := by
  induction handed with
  | nil => rfl
  | reference owned others ih => rw [List.length_cons, List.length_cons, ih]
  | primitive boxed others ih => rw [List.length_cons, List.length_cons, ih]

/-- Handing over makes the calls that box the primitives. -/
theorem makes {program : HostProgram ω} {level : Nat}
    (handed : HandsOver (program.host level) t rt arguments values s s') :
    s.Makes level (boxings arguments) s' := by
  induction handed with
  | nil => exact .of_eq rfl
  | reference owned others ih => exact ih
  | primitive boxed others ih => exact (Action.makes_of_cross_ok boxed).trans ih

/-- If boxing leaves the handle live, so does handing over. -/
theorem live (inPlace : ∀ v s, s.Live t rt → ((Action.box host rt v).runOn t s).2.Live t rt)
    (handed : HandsOver host t rt arguments values s s') (live : s.Live t rt) : s'.Live t rt := by
  induction handed with
  | nil => exact live
  | reference owned others ih => exact ih live
  | @primitive p fits v rest vs s s₁ s' boxed others ih =>
    have still := inPlace (.ofScalar p) s live
    rw [boxed] at still
    exact ih still

end HandsOver

namespace Action

variable {host : Host ω} {t : ThreadId} {rt : HandleId}

/-- All arguments are handed over, or the first one that fails to be decides. -/
theorem allToHost_cases (host : Host ω) (t : ThreadId) (rt : HandleId) (arguments : List Argument)
    (s : State ω) :
    (∃ values s', HandsOver host t rt arguments values s s' ∧
      (allToHost host rt arguments).runOn t s = (.ok values, s')) ∨
    ∃ before a after values s₁ fault s', arguments = before ++ a :: after ∧
      HandsOver host t rt before values s s₁ ∧ (toHost host rt a).runOn t s₁ = (.error fault, s') ∧
      (allToHost host rt arguments).runOn t s = (.error fault, s') := by
  induction arguments generalizing s with
  | nil => exact .inl ⟨[], s, .nil, rfl⟩
  | cons a rest ih =>
    cases handed : (toHost host rt a).runOn t s with
    | mk result s₁ =>
    cases result with
    | error fault =>
      refine .inr ⟨[], a, rest, [], s, fault, s₁, rfl, .nil, handed, ?_⟩
      rw [allToHost, runOn_bind, handed]
    | ok v =>
      have first {rest : List Argument} {vs : List Value} {s' : State ω}
          (others : HandsOver host t rt rest vs s₁ s') :
          HandsOver host t rt (a :: rest) (v :: vs) s s' := by
        cases a with
        | reference id =>
          cases owned : s.view id with
          | none =>
            rw [toHost, runOn_reference_of_released owned] at handed
            cases handed
          | some v' =>
            rw [toHost, runOn_reference_of_owned owned] at handed
            cases handed
            exact .reference owned others
        | primitive p fits => exact .primitive handed others
      rcases ih s₁ with ⟨values, s', others, ran⟩ |
        ⟨before, b, after, values, s₂, fault, s', rfl, others, failed, ran⟩
      · refine .inl ⟨v :: values, s', first others, ?_⟩
        simp only [allToHost, runOn_bind, handed, ran, runOn_pure]
      · refine .inr ⟨a :: before, b, after, v :: values, s₂, fault, s', rfl, first others, failed,
          ?_⟩
        simp only [allToHost, runOn_bind, handed, ran]

/-! ### The call -/

/-- Hand the arguments over and call the method. -/
def callThrough (host : Host ω) (target : Value) (arguments : List Argument) (rt : HandleId) :
    Action ω Value := do
  let values ← allToHost host rt arguments
  invokeMethod host rt target "invoke" values

/-- The fault of a call that the host failed. -/
def callFault (f : Callable) (fault : Fault) : Fault :=
  .fromHost .invocation ("Invoking " ++ f.qualifiedName ++ " failed") fault

/-- Report a call that the host failed. -/
def reportCall (f : Callable) (arguments : List Argument) (fault : Fault) : Action ω Fault := do
  debug callLogger ("Invoking " ++ f.qualifiedName ++ " with " ++ toString arguments.length ++
    " args failed: " ++ fault.text)
  return callFault f fault

section Invoke

variable {f : Callable} {args target : Value} {arguments : List Argument} {s s' : State ω}

/-- Arguments that cannot be converted end the call before it begins. -/
theorem runOn_invoke_of_refused {fault : Fault} (refused : argumentsIn args = .error fault)
    (t : ThreadId) (s : State ω) : (invoke host f args).runOn t s = (.error fault, s) := by
  rw [invoke, runOn_bind, refused, runOn_ofExcept]

/-- A function that has been released ends the call before it begins. -/
theorem runOn_invoke_of_released (converted : argumentsIn args = .ok arguments)
    (gone : s.view f.inner = none) (t : ThreadId) :
    (invoke host f args).runOn t s = (.error releasedBefore, s) := by
  simp only [invoke, runOn_bind, converted, runOn_ofExcept, runOn_reference_of_released gone]

variable (converted : argumentsIn args = .ok arguments) (there : s.view f.inner = some target)

include converted there

private theorem runOn_invoke_of_there (t : ThreadId) :
    (invoke host f args).runOn t s =
      (onHostFault (withRuntime host (callThrough host target arguments)) (reportCall f arguments) >>=
        own).runOn t s := by
  rw [invoke, runOn_bind, converted, runOn_ofExcept]
  dsimp only
  rw [runOn_bind, runOn_reference_of_owned there]
  rfl

/-- A call that comes back in order gives the result, which is owned. -/
theorem runOn_invoke_ok {v : Value}
    (came : (withRuntime host (callThrough host target arguments)).runOn t s = (.ok v, s')) :
    (invoke host f args).runOn t s = (.ok ⟨s'.owned.length⟩, s'.owning v) := by
  rw [runOn_invoke_of_there converted there, runOn_bind, runOn_onHostFault_ok came]
  rfl

/-- A call that the host fails is reported. -/
theorem runOn_invoke_of_host {fault : Fault} (thrown : fault.IsHost)
    (came : (withRuntime host (callThrough host target arguments)).runOn t s = (.error fault, s')) :
    ∃ l, (invoke host f args).runOn t s = (.error (callFault f fault), { s' with log := l }) := by
  obtain ⟨className, message, trace, cause, rfl⟩ := thrown
  rw [runOn_invoke_of_there converted there, runOn_bind, runOn_onHostFault_host came rfl]
  exact ⟨_, rfl⟩

/-- Any other fault of a call stays. -/
theorem runOn_invoke_of_other {fault : Fault} (other : ¬ fault.IsHost)
    (came : (withRuntime host (callThrough host target arguments)).runOn t s = (.error fault, s')) :
    (invoke host f args).runOn t s = (.error fault, s') := by
  rw [runOn_invoke_of_there converted there, runOn_bind, runOn_onHostFault_other came]
  intro className message trace cause same
  exact other ⟨_, _, _, _, same⟩

/-- However a call fails, only the log is written after that. -/
theorem runOn_invoke_error {fault : Fault}
    (came : (withRuntime host (callThrough host target arguments)).runOn t s = (.error fault, s')) :
    ∃ fault' l, (invoke host f args).runOn t s = (.error fault', { s' with log := l }) := by
  by_cases thrown : fault.IsHost
  · obtain ⟨l, ran⟩ := runOn_invoke_of_host converted there thrown came
    exact ⟨_, l, ran⟩
  · exact ⟨fault, s'.log, runOn_invoke_of_other converted there thrown came⟩

end Invoke

/-- Callables that own one object under one name are called in the same way. -/
theorem runOn_invoke_congr (host : Host ω) {f g : Callable} {s : State ω}
    (same : s.view f.inner = s.view g.inner) (named : f.qualifiedName = g.qualifiedName) (args : Value)
    (t : ThreadId) : (invoke host f args).runOn t s = (invoke host g args).runOn t s := by
  cases converted : argumentsIn args with
  | error fault => rw [runOn_invoke_of_refused converted, runOn_invoke_of_refused converted]
  | ok arguments =>
    cases there : s.view g.inner with
    | none =>
      rw [runOn_invoke_of_released converted (same.trans there),
        runOn_invoke_of_released converted there]
    | some target =>
      have reports : reportCall (ω := ω) f arguments = reportCall g arguments := by
        funext fault
        rw [reportCall, reportCall, callFault, callFault, named]
      rw [runOn_invoke_of_there converted (same.trans there), runOn_invoke_of_there converted there,
        reports]

end Action

end HostBridge
