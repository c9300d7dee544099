import HostBridge.Proofs.HostFaults

/-!
# Faults of the host as operations report them

Whichever of its calls comes back with a fault of the host, an operation makes no further call and fails
with a fault of the one kind that it documents, which passes on what the host said.
-/

namespace HostBridge

variable {ω : Type}

namespace Action.Surfaces

open Fault (Reports)

variable {level : Nat} {host : Host ω}

/-- Finding a namespace reports a failed lookup. -/
theorem findNamespace (h : host.Calls (fun {α} => Surfaces level Eq (α := α))) (ns : String) :
    Surfaces level (Reports .symbolLookup) (Action.findNamespace host ns) := by
  refine bind (onHostFault ("Could not look up namespace " ++ ns) ?_ ?_) fun v => ?_
  · exact h.withRuntime fun rt => h.looks.lookUpNamespace rt ns
  · exact fun fault t s => ⟨s.log, rfl⟩
  · split
    · exact of_quiet (Keeps.throw _)
    · exact of_quiet (Keeps.own _)

/-- Resolving a name reports a failed lookup. -/
theorem resolve (h : host.Calls (fun {α} => Surfaces level Eq (α := α))) (ns name : String) :
    Surfaces level (Reports .symbolLookup) (Action.resolve host ns name) := by
  refine bind (onHostFault ("Could not resolve " ++ (ns ++ "/" ++ name)) ?_ ?_) fun looked => ?_
  · exact h.withRuntime fun rt => h.looks.lookUp rt ns name
  · exact fun fault t s => ⟨_, rfl⟩
  · apply of_quiet
    cases looked with
    | noNamespace => exact Keeps.throw _
    | notBound => exact Keeps.bind (Keeps.debug _ _) fun _ => Keeps.throw _
    | bound var =>
      refine Keeps.bind (Keeps.debug _ _) fun _ => ?_
      exact Keeps.bind (Keeps.own var) fun _ => Keeps.pure _

/-- Calling a function reports a failed call. -/
theorem invoke (h : host.Calls (fun {α} => Surfaces level Eq (α := α))) (f : Callable) (args : Value) :
    Surfaces level (Reports .invocation) (Action.invoke host f args) := by
  refine bind (of_quiet (Keeps.ofExcept _)) fun arguments => ?_
  refine bind (of_quiet (Keeps.reference _)) fun target => ?_
  refine bind (onHostFault ("Invoking " ++ f.qualifiedName ++ " failed") ?_ ?_)
    fun result => of_quiet (Keeps.own result)
  · refine h.withRuntime fun rt => ?_
    exact h.bind (h.allToHost rt arguments) fun values => h.cross rt _ rfl
  · exact fun fault t s => ⟨_, rfl⟩

/-- Reading a text reports a failed parse. -/
theorem readString (h : host.Calls (fun {α} => Surfaces level Eq (α := α))) (text : String) :
    Surfaces level (Reports .parse) (Action.readString host text) := by
  refine bind (of_quiet (Keeps.configured _)) fun config => ?_
  refine bind (onHostFault "Could not read source text" ?_ ?_) fun v => of_quiet (Keeps.own v)
  · refine h.withRuntime fun rt => ?_
    exact h.bind (h.cross rt _ rfl) fun boxed => h.invokeStatic rt _ _ _
  · exact fun fault t s => ⟨_, rfl⟩

/-- Printing a value reports a failed call. -/
theorem printValue (h : host.Calls (fun {α} => Surfaces level Eq (α := α))) (id : OpaqueId) :
    Surfaces level (Reports .invocation) (Action.printValue host id) := by
  refine bind (of_quiet (Keeps.reference id)) fun ref => ?_
  refine onHostFault "Printing value failed" ?_ ?_
  · refine h.withRuntime fun rt => ?_
    refine h.bind (h.cross rt _ rfl) fun system => ?_
    refine h.bind (h.cross rt _ rfl) fun out => ?_
    refine h.bind (h.shown rt ref) fun shown => ?_
    exact map _ (h.cross rt _ rfl)
  · exact fun fault t s => ⟨s.log, rfl⟩

/-- While a namespace is loaded, the host's fault comes up by itself, or reported by a lookup or a call. -/
def ComesUp (h f : Fault) : Prop :=
  h = f ∨ Reports .symbolLookup h f ∨ Reports .invocation h f

private theorem load (h : host.Calls (fun {α} => Surfaces level Eq (α := α))) (ns : String) :
    Surfaces level ComesUp (Action.load host ns) := by
  refine bind ((h.withRuntime fun rt => h.looks.internSymbol rt ns).mono fun _ _ => .inl) fun v => ?_
  refine bind (of_quiet (Keeps.own v)) fun symbol => ?_
  refine bind ((resolve h _ _).mono fun _ _ reports => .inr (.inl reports)) fun f => ?_
  exact (invoke h f _).mono fun _ _ reports => .inr (.inr reports)

/-- However a fault of the host has come up, a failed load reports it. -/
theorem runOn_loadFault (ns : String) (fault : Fault) (t : ThreadId) (s : State ω) :
    ∃ fault' l, (loadFault ns fault).runOn t s = (.ok fault', { s with log := l }) ∧
      ∀ h : Fault, h.IsHost → ComesUp h fault → Reports .load h fault' := by
  by_cases comes : ∃ h : Fault, h.IsHost ∧ ComesUp h fault
  · obtain ⟨h, host, rfl | reports | reports⟩ := comes
    · obtain ⟨className, message, trace, cause, rfl⟩ := host
      refine ⟨_, s.log, rfl, ?_⟩
      rintro h' host' (rfl | reports | reports)
      · exact Fault.reports_fromHost .load _ className message trace cause
      · exact (reports.not_isHost ⟨_, _, _, _, rfl⟩).elim
      · exact (reports.not_isHost ⟨_, _, _, _, rfl⟩).elim
    · obtain ⟨message, hostClass, hostMessage, cause, rfl⟩ := reports.eq_bridge
      refine ⟨_, _, rfl, ?_⟩
      rintro h' host' (rfl | reports' | reports')
      · exact (reports.not_isHost host').elim
      · exact reports'.fromBridge .load _
      · obtain ⟨_, _, _, _, impossible⟩ := reports'.eq_bridge
        cases impossible
    · obtain ⟨message, hostClass, hostMessage, cause, rfl⟩ := reports.eq_bridge
      refine ⟨_, _, rfl, ?_⟩
      rintro h' host' (rfl | reports' | reports')
      · exact (reports.not_isHost host').elim
      · obtain ⟨_, _, _, _, impossible⟩ := reports'.eq_bridge
        cases impossible
      · exact reports'.fromBridge .load _
  · have answered : ∃ fault' l,
        (loadFault ns fault).runOn t s = (.ok fault', { s with log := l }) := by
      unfold loadFault
      dsimp only
      split <;> exact ⟨_, _, rfl⟩
    obtain ⟨fault', l, went⟩ := answered
    exact ⟨fault', l, went, fun h host up => (comes ⟨h, host, up⟩).elim⟩

/-- Loading a namespace reports a failed load. -/
theorem require (h : host.Calls (fun {α} => Surfaces level Eq (α := α))) (ns : String) :
    Surfaces level (Reports .load) (Action.require host ns) := by
  refine bind (of_quiet (Keeps.debug _ _)) fun _ => of_answered (load h ns) ?_ ?_
  · intro t s id s' ran
    refine ⟨(), ?_⟩
    rw [runOn_bind, runOn_outcome, ran]
    rfl
  · intro t s fault s' ran
    obtain ⟨fault', l, went, reports⟩ := runOn_loadFault ns fault t s'
    refine ⟨fault', l, ?_, reports⟩
    simp only [runOn_bind, runOn_outcome, ran, went, runOn_throw]

end Action.Surfaces

/-- The kind of fault that an operation documents for failures of the host. -/
def Operation.reports : Operation → Option BridgeKind
  | .findNamespace _ | .namespaceHandle _ | .resolve .. => some .symbolLookup
  | .require _ => some .load
  | .invoke .. | .printValue (.owner _) => some .invocation
  | .read _ | .readForms _ => some .parse
  | _ => none

namespace Operation

open HostBridge.Action (Surfaces Keeps)
open Fault (Reports)

end Operation

/-- A host that attaches threads and does nothing else. -/
def surlyHost : HostProgram Unit := fun _ _ _ call w => match call with
  | .attach | .detach => .answer w (.ok .nil)
  | _ => .answer w (.error (.host "java.lang.Error" none none none))

end HostBridge
