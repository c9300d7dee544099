import HostBridge.Proofs.Course

/-!
# What resolving comes to

The outcome of resolving a name by what the search for its variable came to, and of finding a namespace by
what the host knows of it.
-/

namespace HostBridge

variable {ω : Type}

namespace Action

/-- The search finds no bound variable. -/
def Lookup.Misses : Lookup → Prop
  | .noNamespace | .notBound => True
  | .bound _ => False

/-- The fault of resolving a name in a namespace that is not there. -/
def unloadedFault (ns name : String) : Fault :=
  .plain .symbolLookup
    ("Could not resolve " ++ (ns ++ "/" ++ name) ++ ": namespace " ++ ns ++ " is not loaded")

/-- The fault of resolving a name without a bound variable. -/
def unboundName (ns name : String) : Fault :=
  .plain .symbolLookup (ns ++ "/" ++ name ++ " is not bound")

/-- The fault of finding a namespace that is not there. -/
def missingNamespace (ns : String) : Fault :=
  .plain .symbolLookup ("Namespace " ++ ns ++ " is not loaded")

/-- The search for a variable with the handle of the thread. -/
def search (host : Host ω) (ns name : String) : Action ω Lookup :=
  withRuntime host fun rt => lookUp host rt ns name

variable {host : Host ω} {ns name : String} {t : ThreadId} {s s' : State ω}

/-- Without the namespace, the name does not resolve. -/
theorem runOn_resolve_of_noNamespace (ran : (search host ns name).runOn t s = (.ok .noNamespace, s')) :
    (resolve host ns name).runOn t s = (.error (unloadedFault ns name), s') := by
  rw [search] at ran
  rw [resolve, runOn_bind, runOn_onHostFault_ok ran]
  rfl

/-- Without a bound variable, the name does not resolve. -/
theorem runOn_resolve_of_notBound (ran : (search host ns name).runOn t s = (.ok .notBound, s')) :
    ∃ l, (resolve host ns name).runOn t s =
      (.error (unboundName ns name), { s' with log := l }) := by
  refine ⟨⟨.debug, resolverLogger, ns ++ "/" ++ name ++ " has no bound var"⟩ :: s'.log, ?_⟩
  rw [search] at ran
  rw [resolve, runOn_bind, runOn_onHostFault_ok ran]
  rfl

/-- A bound variable is owned, under the name it was found by. -/
theorem runOn_resolve_of_bound {var : Value}
    (ran : (search host ns name).runOn t s = (.ok (.bound var), s')) :
    ∃ l, (resolve host ns name).runOn t s =
      (.ok ⟨⟨s'.owned.length⟩, some ns, some name⟩, { s'.owning var with log := l }) := by
  refine ⟨⟨.debug, resolverLogger, "Resolved " ++ (ns ++ "/" ++ name)⟩ :: s'.log, ?_⟩
  rw [search] at ran
  rw [resolve, runOn_bind, runOn_onHostFault_ok ran]
  rfl

/-- A search that finds no bound variable is reported as a failed lookup, without diagnostics. -/
theorem runOn_resolve_of_misses {found : Lookup} (misses : found.Misses)
    (ran : (search host ns name).runOn t s = (.ok found, s')) :
    ∃ message l, (resolve host ns name).runOn t s =
      (.error (.plain .symbolLookup message), { s' with log := l }) := by
  cases found with
  | noNamespace => exact ⟨_, s'.log, runOn_resolve_of_noNamespace ran⟩
  | notBound =>
    obtain ⟨l, came⟩ := runOn_resolve_of_notBound ran
    exact ⟨_, l, came⟩
  | bound var => exact misses.elim

end Action

end HostBridge
