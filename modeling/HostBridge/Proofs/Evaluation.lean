import HostBridge.Proofs.Diagnostics
import HostBridge.Proofs.Resolving

/-!
# What evaluation reports

Evaluating a text takes two steps: the evaluator of the host is looked up, and then it is called. Only the
second step reports the host's faults as failed evaluations; in the first one they come out as failed
lookups, and so does a host without an evaluator. Loading a namespace takes the same two steps, and reports
every fault in them as a failed load.
-/

namespace HostBridge

variable {ω : Type}

namespace Action

open Fault (Reports)

variable {level : Nat} {host : Host ω}

/-- The second step of evaluating a text: call the evaluator. -/
def callEvaluator (host : Host ω) (text : String) (evaluator : Callable) : Action ω OpaqueId := do
  match ← outcome (invoke host evaluator (.tuple [.text text])) with
  | .ok id => return id
  | .error fault => match fault with
    | .bridge .invocation .. =>
      debug namespaceLogger ("Evaluating " ++ Text.quote text ++ " failed: " ++ fault.text)
      throw (.fromBridge .evaluation "Could not evaluate source text" fault)
    | _ => throw fault

/-- Evaluating a text looks the evaluator up and calls it. -/
theorem evalString_eq (host : Host ω) (text : String) :
    evalString host text = resolve host coreNamespace "load-string" >>= callEvaluator host text := rfl

private theorem Surfaces.callEvaluator (h : host.Calls (fun {α} => Surfaces level Eq (α := α)))
    (text : String) (evaluator : Callable) :
    Surfaces level (Reports .evaluation) (callEvaluator host text evaluator) := by
  refine of_answered (invoke h evaluator (.tuple [.text text])) ?_ ?_
  · intro t s id s' ran
    exact ⟨id, by simp [Action.callEvaluator, ran]⟩
  · intro t s fault s' ran
    by_cases called : ∃ message hostClass hostMessage cause,
        fault = .bridge .invocation message hostClass hostMessage cause
    · obtain ⟨message, hostClass, hostMessage, cause, rfl⟩ := called
      refine ⟨_, _, by simp [Action.callEvaluator, ran, debug]; exact ⟨rfl, rfl⟩, ?_⟩
      rintro h - reports
      exact reports.fromBridge .evaluation _
    · refine ⟨fault, s'.log, ?_, ?_⟩
      · unfold Action.callEvaluator
        rw [runOn_bind, runOn_outcome, ran]
        dsimp only
        split
        · exact (called ⟨_, _, _, _, rfl⟩).elim
        · rfl
      · rintro h - reports
        exact (called reports.eq_bridge).elim

private theorem kind_of_loadFault {ns : String} {fault f : Fault} {t : ThreadId} {s s' : State ω}
    (went : (loadFault ns fault).runOn t s = (.ok f, s')) :
    ¬ f.IsHost ∧ f.kind? ≠ some .symbolLookup ∧ f.kind? ≠ some .invocation := by
  unfold loadFault at went
  cases fault with
  | bridge kind message hostClass hostMessage cause =>
    cases kind <;> cases went <;> exact ⟨fun ⟨_, _, _, _, same⟩ => (nomatch same), nofun, nofun⟩
  | _ =>
    cases went
    exact ⟨fun ⟨_, _, _, _, same⟩ => (nomatch same), nofun, nofun⟩

/-- So loading a namespace fails with neither. -/
theorem kind_of_require {ns : String} {t : ThreadId} {s : State ω} {f : Fault}
    (failed : ((require host ns).runOn t s).1 = .error f) :
    ¬ f.IsHost ∧ f.kind? ≠ some .symbolLookup ∧ f.kind? ≠ some .invocation := by
  simp only [require, debug, runOn_bind, runOn_log, runOn_outcome] at failed
  split at failed
  · cases failed
  · rename_i fault _
    obtain ⟨fault', l, went, -⟩ := Surfaces.runOn_loadFault ns fault t _
    rw [runOn_bind, went] at failed
    cases failed
    exact kind_of_loadFault went

end Action

namespace Operation

/-- The text that an operation evaluates as code. -/
def evaluates : Operation → Option String
  | .evaluate text => some text
  | .evalForms forms => (Action.fragmentsIn forms).toOption.map Source.joinForms
  | _ => none

/-- What evaluation reports the host's faults as: as failed lookups until the evaluator has been found, and
as failed evaluations from then on. -/
def evaluationReports : Except Fault Callable → BridgeKind
  | .ok _ => .evaluation
  | .error _ => .symbolLookup

/-- An operation that evaluates a text goes as the evaluation of that text. -/
theorem runOn_of_evaluates (host : Host ω) {op : Operation} {text : String}
    (evaluates : op.evaluates = some text) (t : ThreadId) (s : State ω) :
    (op.run host).runOn t s =
      (Value.owner <$> Action.evalString host text).runOn t s := by
  cases op with
  | evaluate source =>
    cases evaluates
    rfl
  | evalForms forms =>
    cases fragments : Action.fragmentsIn forms with
    | error fault =>
      rw [Operation.evaluates, fragments] at evaluates
      cases evaluates
    | ok texts =>
      rw [Operation.evaluates, fragments] at evaluates
      cases evaluates
      simp only [run, Action.evalForms, fragments]
      rfl
  | _ => cases evaluates

/-- A fault of the host during an evaluation is its last event, and is reported by the step it came in. -/
theorem evaluation_endsWith {level : Nat} {host : Host ω}
    (h : host.Calls (fun {α} => Action.Surfaces level Eq (α := α))) (text : String) (t : ThreadId)
    (s : State ω) :
    let found := ((Action.resolve host Action.coreNamespace "load-string").runOn t s).1
    let came := (Action.evalString host text).runOn t s
    ∃ trail, came.2.journal = trail ++ s.journal ∧
      EndsWith level (Fault.Reports (evaluationReports found)) came.1 trail := by
  obtain ⟨trail, grown, ends⟩ := Action.Surfaces.resolve h Action.coreNamespace "load-string" t s
  rw [Action.evalString_eq, Action.runOn_bind]
  cases searched : (Action.resolve host Action.coreNamespace "load-string").runOn t s with
  | mk found s₁ =>
  rw [searched] at grown ends
  cases found with
  | error fault => exact ⟨trail, grown, ends.of_error⟩
  | ok evaluator =>
    obtain ⟨trail', grown', ends'⟩ := Action.Surfaces.callEvaluator h text evaluator t s₁
    refine ⟨trail' ++ trail, ?_, ?_⟩
    · rw [grown', grown, List.append_assoc]
    · have before : EndsWith level (Fault.Reports .evaluation) (.ok evaluator) trail := ends.of_ok
      exact before.append ends'

end Operation

/-- Whichever call of an evaluation comes back with a fault of the host, it is the last thing that happens,
and the evaluation fails with a fault that carries the class, the message and the text of the host's. Its
kind is that of a failed evaluation if the evaluator had been found by then, and else that of a failed
lookup; so is that of an evaluation by a host that has no evaluator. No load of a namespace fails in that
way. -/
theorem evaluation_reports_by_step (program : HostProgram ω) (limit : Nat) {op : Operation}
    {text : String} (evaluates : op.evaluates = some text) (t : ThreadId) (s : State ω) :
    let host := program.host limit
    let came := (op.run host).runOn t s
    let found := ((Action.resolve host Action.coreNamespace "load-string").runOn t s).1
    (∃ trail, came.2.journal = trail ++ s.journal ∧
      ∀ later c thrown earlier, trail = later ++ .returned c (some thrown) :: earlier →
        c.level = limit → c.call.isPrimitive = true → thrown.IsHost →
        later = [] ∧ ∃ f, came.1 = .error f ∧
          Fault.Reports (Operation.evaluationReports found) thrown f) ∧
    (∀ searched s', (Action.search host Action.coreNamespace "load-string").runOn t s = (.ok searched, s') →
      searched.Misses → ∃ message, came.1 = .error (.plain .symbolLookup message)) ∧
    ∀ ns f, (((Operation.require ns).run host).runOn t s).1 = .error f →
      ¬ f.IsHost ∧ f.kind? ≠ some .symbolLookup ∧ f.kind? ≠ some .invocation := by
  intro host came found
  have went : came = (Value.owner <$> Action.evalString host text).runOn t s :=
    Operation.runOn_of_evaluates host evaluates t s
  rw [Action.runOn_map] at went
  refine ⟨?_, ?_, ?_⟩
  · have calls : host.Calls (fun {α} => Action.Surfaces limit Eq (α := α)) := by
      rw [show host = program.serve (program.answers limit) limit from program.host_eq_serve limit]
      exact Action.Surfaces.calls (Quiet.answers program limit)
    obtain ⟨trail, grown, ends⟩ := Operation.evaluation_endsWith calls text t s
    refine ⟨trail, went ▸ grown, ?_⟩
    intro later c thrown earlier split outermost primitive thrown_host
    obtain ⟨last, f, failed, reports⟩ :=
      ends later _ earlier thrown split ⟨c, rfl, outermost, primitive, thrown_host⟩
    refine ⟨last, f, ?_, reports⟩
    rw [went, failed]
    rfl
  · intro searched s' ran misses
    obtain ⟨message, l, resolved⟩ := Action.runOn_resolve_of_misses misses ran
    refine ⟨message, ?_⟩
    rw [went, Action.evalString_eq, Action.runOn_bind, resolved]
    rfl
  · intro ns f failed
    have loading : ((Action.require host ns).runOn t s).1 = .error f := by
      simp only [Operation.run, Action.runOn_bind] at failed
      split at failed
      · cases failed
      · rename_i ran
        cases failed
        rw [ran]
    exact Action.kind_of_require loading

/-- The surly host fails to look the evaluator up, and that is what an evaluation of a fragment reports. -/
theorem evaluation_reports_by_step_surly :
    ∃ f, (((Operation.evalForms [.text "(+ 1 2)"]).run (surlyHost.host nestingLimit)).runOn .main
        (.initial (.ofSettings .nil []) ())).1 = .error f ∧
      Fault.Reports .symbolLookup (.host "java.lang.Error" none none none) f := by
  have evaluates : (Operation.evalForms [.text "(+ 1 2)"]).evaluates =
    some (Source.joinForms ["(+ 1 2)"]) := rfl
  obtain ⟨⟨trail, grown, ends⟩, -, -⟩ := evaluation_reports_by_step surlyHost nestingLimit evaluates .main
    (.initial (.ofSettings .nil []) ())
  have whole : trail = _ := (List.append_nil trail).symm.trans grown.symm
  exact (ends [] _ _ _ whole rfl rfl ⟨_, _, _, _, rfl⟩).2

end HostBridge
