import HostBridge.Proofs.CoupledRuns
import HostBridge.Proofs.Strands

/-!
# Operations keep states coupled

Two strands are in step if they have the same pieces, and each piece, run from coupled states, leads to
coupled states where the rests are in step. All operations of the attachment are in step with themselves,
whatever the handles are that they are about. So they come to the same in one go, and that answers what a
backend asks on its own thread.
-/

namespace HostBridge

variable {ω σ τ υ α β : Type} {part : ThreadId → ω → σ} {shows : Except Fault Value → τ} {b : BackendId}
  {t : ThreadId} {ρ : Pairing} {start s s' : State ω}

/-- Two strands have the same pieces and sights and, from states that are coupled by then, come to outcomes
that are alike. -/
def Strand.InStep (part : ThreadId → ω → σ) (b : BackendId) (t : ThreadId)
    (alike : Pairing → Except Fault α → Except Fault α → Prop) :
    Pairing → Strand ω υ α → Strand ω υ α → Prop
  | ρ, .finish result, .finish result' => alike ρ result result'
  | ρ, .piece first rest, .piece first' rest' => ∀ ⦃ρ₁ start s s'⦄, Subrelation ρ ρ₁ →
    Coupled part b t ρ₁ start s s' →
      Meets part b t ρ₁ start (fun ρ₂ r r' => (rest r).InStep part b t alike ρ₂ (rest' r'))
        (first.runOn t s) (first'.runOn t s')
  | ρ, .see sight rest, .see sight' rest' => sight = sight' ∧ rest.InStep part b t alike ρ rest'
  | _, _, _ => False

namespace Strand

/-! ### Putting strands together -/

namespace InStep

variable {alike : Pairing → Except Fault α → Except Fault α → Prop}
  {alike' : Pairing → Except Fault β → Except Fault β → Prop} {R : Pairing → α → α → Prop}

/-- Single pieces are in step if they meet. -/
theorem atom {p p' : Action ω α}
    (meets : ∀ ⦃ρ₁ start s s'⦄, Subrelation ρ ρ₁ → Coupled part b t ρ₁ start s s' →
      Meets part b t ρ₁ start alike (p.runOn t s) (p'.runOn t s')) :
    InStep part b t alike ρ (.atom p : Strand ω υ α) (.atom p') := meets

/-- What follows has to be in step after outcomes that are alike. -/
theorem followed {p p' : Strand ω υ α} {next next' : Except Fault α → Strand ω υ β}
    (first : InStep part b t alike ρ p p')
    (rest : ∀ ⦃ρ₁⦄, Subrelation ρ ρ₁ → ∀ r r', alike ρ₁ r r' → InStep part b t alike' ρ₁ (next r) (next' r')) :
    InStep part b t alike' ρ (p.followed next) (p'.followed next') := by
  induction p generalizing p' ρ with
  | finish result =>
    cases p' with
    | finish result' => exact rest (fun pair => pair) result result' first
    | piece _ _ => exact first.elim
    | see _ _ => exact first.elim
  | piece piece later ih =>
    cases p' with
    | finish _ => exact first.elim
    | piece piece' later' =>
      intro ρ₁ start s s' more h
      obtain ⟨ρ₂, more', coupled, inStep⟩ := first more h
      refine ⟨ρ₂, more', coupled, ih _ inStep fun ρ₃ more'' r r' same => ?_⟩
      exact rest (fun pair => more'' (more' (more pair))) r r' same
    | see _ _ => exact first.elim
  | see sight later ih =>
    cases p' with
    | finish _ => exact first.elim
    | piece _ _ => exact first.elim
    | see sight' later' => exact ⟨first.1, ih first.2 rest⟩

private theorem bind {p p' : Strand ω υ α} {f f' : α → Strand ω υ β}
    (first : InStep part b t (fun ρ => Corresponds (R ρ)) ρ p p')
    (faults : ∀ ρ fault, alike' ρ (.error fault) (.error fault))
    (rest : ∀ ⦃ρ₁⦄, Subrelation ρ ρ₁ → ∀ a a', R ρ₁ a a' → InStep part b t alike' ρ₁ (f a) (f' a')) :
    InStep part b t alike' ρ (p >>= f) (p' >>= f') := by
  refine followed first fun ρ₁ more r r' same => ?_
  cases same with
  | ok related => exact rest more _ _ related
  | error fault => exact faults ρ₁ fault

private theorem outcome {p p' : Strand ω υ α} (h : InStep part b t alike ρ p p') :
    InStep part b t (fun ρ => Corresponds (alike ρ)) ρ p.outcome p'.outcome :=
  followed h fun _ _ _ _ same => .ok same

private theorem run {p p' : Strand ω υ α} (inStep : InStep part b t alike ρ p p')
    (h : Coupled part b t ρ start s s') :
    Meets part b t ρ start alike (p.run.runOn t s) (p'.run.runOn t s') := by
  induction p generalizing p' ρ s s' with
  | finish result =>
    cases p' with
    | finish result' =>
      rw [Strand.run, Strand.run, Action.runOn_ofExcept, Action.runOn_ofExcept]
      exact Meets.here h inStep
    | piece _ _ => exact inStep.elim
    | see _ _ => exact inStep.elim
  | piece first rest ih =>
    cases p' with
    | finish _ => exact inStep.elim
    | piece first' rest' =>
      obtain ⟨ρ₁, more, coupled, later⟩ := inStep (fun pair => pair) h
      rw [Strand.run, Strand.run, Action.runOn_bind, Action.runOn_bind, Action.runOn_outcome,
        Action.runOn_outcome]
      exact Meets.extend more (ih _ later coupled)
    | see _ _ => exact inStep.elim
  | see sight rest ih =>
    cases p' with
    | finish _ => exact inStep.elim
    | piece _ _ => exact inStep.elim
    | see sight' rest' =>
      rw [Strand.run, Strand.run]
      exact ih inStep.2 h

end InStep

/-! ### The operations -/

section Operations

variable {program : HostProgram ω} {level : Nat} (separate : program.Separate part shows b)
  (answers : CoupledAnswers part b (program.answers level))

include separate answers

private theorem plainCall_inStep (through? through?' : Option HandleId) (call : Call)
    (plain : call.isPrimitive = false) :
    InStep part b t (fun _ => Corresponds fun _ _ => True) ρ
      (.atom (program.host level through? b call) : Strand ω υ Value)
      (.atom (program.host level through?' b call)) := by
  refine InStep.atom fun ρ₁ start s s' _ h => ?_
  rw [program.host_eq_serve]
  obtain ⟨ρ₂, more, coupled, same⟩ := serve_meets separate answers level through? through?' call h
  refine ⟨ρ₂, more, coupled, Corresponds.of_fault? ?_⟩
  simpa [Call.Alike, plain] using same

private theorem attachThrough_inStep :
    InStep part b t Corresponds ρ (attachThrough (program.host level) b : Strand ω υ HandleId)
      (attachThrough (program.host level) b) := by
  have faults (ρ : Pairing) (fault : Fault) := Corresponds.error (R := ρ) fault
  refine (plainCall_inStep separate answers none none .attach rfl).bind faults fun ρ₁ _ _ _ _ => ?_
  refine (InStep.atom fun _ _ _ _ _ h => h.thread_meets).bind faults ?_
  rintro ρ₂ - _ _ ⟨rfl, rfl⟩
  refine (InStep.atom fun _ _ _ _ _ h => h.newHandle_meets).bind faults fun ρ₃ _ id id' pair => ?_
  refine (InStep.atom fun _ _ _ _ _ h => h.log_meets _ _).bind faults fun ρ₄ more _ _ _ => ?_
  exact .ok (more pair)

omit separate answers in
private theorem settleAttach_inStep {result result' : Except Fault HandleId} (same : Corresponds ρ result result') :
    InStep part b t Corresponds ρ (settleAttach result : Strand ω υ HandleId) (settleAttach result') := by
  have faults (ρ : Pairing) (fault : Fault) := Corresponds.error (R := ρ) fault
  cases same with
  | ok pair =>
    refine (InStep.atom fun ρ₁ _ _ _ more h => h.updateAttachment_meets fun alike => ?_).bind faults ?_
    · exact ⟨.some (more pair), alike.failure, rfl⟩
    · exact fun ρ₂ more _ _ _ => .ok (more pair)
  | error reason =>
    refine (InStep.atom fun ρ₁ _ _ _ _ h => h.updateAttachment_meets fun alike => ?_).bind faults ?_
    · exact ⟨alike.handle, rfl, alike.attaching⟩
    intro ρ₁ _ _ _ _
    refine (InStep.atom fun _ _ _ _ _ h => h.thread_meets).bind faults fun ρ₂ _ _ _ _ => ?_
    refine (InStep.atom fun _ _ _ _ _ h => h.log_meets _ _).bind faults fun ρ₃ _ _ _ _ => ?_
    refine (InStep.atom fun ρ₄ _ _ _ _ h => h.updateAttachment_meets fun alike => ?_).bind faults ?_
    · exact ⟨alike.handle, alike.failure, rfl⟩
    · exact fun ρ₅ _ _ _ _ => .error _

private theorem attachThread_inStep :
    InStep part b t Corresponds ρ (attachThread (program.host level) : Strand ω υ HandleId)
      (attachThread (program.host level)) := by
  have faults (ρ : Pairing) (fault : Fault) := Corresponds.error (R := ρ) fault
  refine (InStep.atom fun ρ₁ _ _ _ _ h => h.updateAttachment_meets fun alike => ?_).bind faults ?_
  · exact ⟨alike.handle, alike.failure, rfl⟩
  intro ρ₁ _ _ _ _
  refine (InStep.atom fun _ _ _ _ _ h => h.getBackend_meets).bind faults ?_
  rintro ρ₂ - _ _ ⟨rfl, rfl⟩
  refine (attachThrough_inStep separate answers).outcome.bind faults fun ρ₃ _ _ _ same => ?_
  exact settleAttach_inStep same

/-- Asking for the handle of the thread is in step. -/
theorem currentRuntime_inStep :
    InStep part b t Corresponds ρ (currentRuntime (program.host level) : Strand ω υ HandleId)
      (currentRuntime (program.host level)) := by
  have faults (ρ : Pairing) (fault : Fault) := Corresponds.error (R := ρ) fault
  refine (InStep.atom fun _ _ _ _ _ h => h.attachment_meets).bind faults ?_
  rintro ρ₁ - ⟨handle?, failure?, attaching⟩ ⟨handle?', failure?', attaching'⟩ ⟨handle, rfl, rfl⟩
  cases handle with
  | some pair => exact .ok pair
  | none =>
    cases failure? with
    | some failure => exact .error _
    | none =>
      cases attaching with
      | true => exact .error _
      | false => exact attachThread_inStep separate answers

/-- Detaching handles that are paired is in step. -/
theorem detachHandle_inStep {rt rt' : HandleId} (pair : ρ rt rt') :
    InStep part b t (fun _ => Corresponds fun _ _ => True) ρ
      (detachHandle (program.host level) rt : Strand ω υ Unit) (detachHandle (program.host level) rt') := by
  have faults (ρ : Pairing) (fault : Fault) := Corresponds.error (R := fun (_ _ : Unit) => True) fault
  have crossed : InStep part b t (fun _ => Corresponds fun _ _ => True) ρ
      (cross (program.host level) rt .detach : Strand ω υ Value)
      (cross (program.host level) rt' .detach) := by
    refine (InStep.atom fun _ _ _ _ more h => h.checked_meets (more pair)).bind (fun _ => .error) ?_
    rintro ρ₁ - _ _ ⟨rfl, rfl⟩
    exact plainCall_inStep separate answers (some rt) (some rt') .detach rfl
  refine crossed.bind faults fun ρ₁ more _ _ _ => ?_
  refine (InStep.atom fun _ _ _ _ more' h => h.markDetached_meets (more' (more pair))).bind faults ?_
  intro ρ₂ _ _ _ _
  refine (InStep.atom fun _ _ _ _ _ h => h.thread_meets).bind faults fun ρ₃ _ _ _ _ => ?_
  exact InStep.atom fun _ _ _ _ _ h => h.log_meets _ _

/-- Detaching the thread is in step. -/
theorem detachRuntime_inStep :
    InStep part b t (fun _ r r' => r = r') ρ (detachRuntime (program.host level) : Strand ω υ Bool)
      (detachRuntime (program.host level)) := by
  have faults (ρ : Pairing) (fault : Fault) : (.error fault : Except Fault Bool) = .error fault := rfl
  refine (InStep.atom fun _ _ _ _ _ h => h.attachment_meets).bind faults fun ρ₁ _ a a' alike => ?_
  refine (InStep.atom fun ρ₂ _ _ _ _ h => h.updateAttachment_meets fun alike => ?_).bind faults ?_
  · exact ⟨.none, rfl, alike.attaching⟩
  intro ρ₂ more _ _ _
  refine (InStep.atom fun _ _ _ _ _ h => h.thread_meets).bind faults ?_
  rintro ρ₃ more' _ _ ⟨rfl, rfl⟩
  refine (InStep.atom fun _ _ _ _ _ h => h.forgotten_meets).bind faults fun ρ₄ more'' _ _ _ => ?_
  obtain ⟨handle?, failure?, attaching⟩ := a
  obtain ⟨handle?', failure?', attaching'⟩ := a'
  obtain ⟨handle, -, -⟩ := alike
  cases handle with
  | none => rfl
  | some pair =>
    refine (detachHandle_inStep separate answers (more'' (more' (more pair)))).bind faults ?_
    exact fun ρ₅ _ _ _ _ => rfl

omit separate answers in
/-- Asking whether the thread has a handle is in step. -/
theorem hasRuntime_inStep :
    InStep part b t (fun _ r r' => r = r') ρ (atom Action.hasRuntime : Strand ω υ Bool)
      (atom Action.hasRuntime) :=
  InStep.atom fun _ _ _ _ _ h => h.hasRuntime_meets

/-- Primitive calls are in step, and show the same. -/
theorem primitiveCall_inStep (through? through?' : Option HandleId) (call : Call)
    (primitive : call.isPrimitive = true) :
    InStep part b t (fun _ r r' => shows r = shows r') ρ
      (.atom (program.host level through? b call) : Strand ω υ Value)
      (.atom (program.host level through?' b call)) := by
  refine InStep.atom fun ρ₁ start s s' _ h => ?_
  rw [program.host_eq_serve]
  obtain ⟨ρ₂, more, coupled, same⟩ := serve_meets separate answers level through? through?' call h
  rw [Call.Alike, if_pos primitive] at same
  exact ⟨ρ₂, more, coupled, same⟩

end Operations

end Strand

/-! ### What a backend asks -/

section Requests

variable {program : HostProgram ω} {level : Nat} (separate : program.Separate part shows b)

include separate

/-- What a backend asks on its own thread comes to the same, but for the handles, if that is so where calls
nest one level less. -/
theorem coupledAnswers_run (answers : CoupledAnswers part b (program.answers level)) :
    CoupledAnswers part b (Request.run (program.host level)) := by
  intro t ρ start s s' q own h
  cases q with
  | turn u op => exact own.elim
  | log entry => exact Meets.here (h.logging _ _) (.inl rfl)
  | perform op =>
    cases op with
    | currentRuntime =>
      have inStep : Strand.InStep part b t Corresponds ρ
          (Strand.currentRuntime (program.host level) : Strand ω Unit HandleId)
          (Strand.currentRuntime (program.host level)) := Strand.currentRuntime_inStep separate answers
      obtain ⟨ρ₁, more, coupled, same⟩ := inStep.run h
      rw [Strand.run_currentRuntime] at coupled same
      rw [Request.run, Operation.run, Action.runOn_bind_pure, Action.runOn_bind_pure]
      exact ⟨ρ₁, more, coupled, same.sameButHandles⟩
    | detachRuntime =>
      have inStep : Strand.InStep part b t (fun _ r r' => r = r') ρ
          (Strand.detachRuntime (program.host level) : Strand ω Unit Bool)
          (Strand.detachRuntime (program.host level)) := Strand.detachRuntime_inStep separate answers
      obtain ⟨ρ₁, more, coupled, same⟩ := inStep.run h
      rw [Strand.run_detachRuntime] at coupled same
      rw [Request.run, Operation.run, Action.runOn_bind_pure, Action.runOn_bind_pure]
      exact ⟨ρ₁, more, coupled, .inl (congrArg (Except.map _) same)⟩
    | hasRuntime =>
      obtain ⟨ρ₁, more, coupled, same⟩ := h.hasRuntime_meets
      rw [Request.run, Operation.run, Action.runOn_bind_pure, Action.runOn_bind_pure]
      exact ⟨ρ₁, more, coupled, .inl (congrArg (Except.map _) same)⟩
    | _ => exact own.elim

/-- However deep calls may nest, what a backend asks on its own thread comes to the same, but for the
handles. -/
theorem coupledAnswers (level : Nat) : CoupledAnswers part b (program.answers level) := by
  induction level with
  | zero =>
    intro t ρ start s s' q own h
    cases q with
    | log entry => exact Meets.here (h.logging _ _) (.inl rfl)
    | _ => exact Meets.here h (.inl rfl)
  | succ level ih => exact coupledAnswers_run separate ih

end Requests

end HostBridge
