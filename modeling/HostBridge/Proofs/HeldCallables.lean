import HostBridge.Proofs.ExactLookups
import HostBridge.Proofs.Invoking

/-!
# Holding a callable

A callable that was resolved once stays as good as one that is resolved now: its variable is bound for the
rest of the session, it owns that variable until it is released, and a call through it goes to whatever the
variable is bound to by then.
-/

namespace HostBridge

/-- Take a callable that was resolved at some point of a session, and any later point at which it has not been
released. On a thread that is attached to the in-memory host then, the name resolves again, to the same
variable; and from there on, calling the one or the other, on any thread and with any arguments, comes to
the same result or fault and leaves the same state. The variable does what it is bound to by then. -/
theorem held_callables_are_fresh (level : Nat) {start s₀ s₁ s : State Worlds}
    (ready : start.world.memory.Ready) (session : Session level start s₀) {t₀ t : ThreadId}
    {rt₀ rt : HandleId} (attached₀ : s₀.InMemory t₀ rt₀) {ns name : String} {f : Callable}
    (resolved : (Action.resolve (hosts.host level) ns name).runOn t₀ s₀ = (.ok f, s₁))
    (later : Session level s₁ s) (attached : s.InMemory t rt) (kept : s.view f.inner ≠ none) :
    ∃ g s' body, (Action.resolve (hosts.host level) ns name).runOn t s = (.ok g, s') ∧
      s'.view f.inner = some (.var ns name) ∧ s'.view g.inner = some (.var ns name) ∧
      (∀ t' args, (Action.invoke (hosts.host level) f args).runOn t' s' =
        (Action.invoke (hosts.host level) g args).runOn t' s') ∧
      s.world.memory.var? ns name = some (some body) ∧
      Memory.function? s'.world.memory (.var ns name) = some (ns ++ "/" ++ name, body) := by
  have ready₀ : s₀.world.memory.Ready := ready.of_lasts session.lasts.memory
  have earlier := Memory.World.resolves level attached₀ ready₀ ns name
  rw [resolved] at earlier
  obtain ⟨owns₁, scope, named⟩ := earlier.gives f rfl
  have lasts : s₀.world.memory.Lasts s.world.memory :=
    Lasting.trans earlier.unchanged.lasts later.lasts.memory
  have bound : s.world.memory.Binds ns name :=
    lasts.bound ns name (earlier.succeeds_iff.mp ⟨f, rfl⟩)
  have there : f.inner.index < s₁.owned.length := State.lt_length_of_view owns₁
  have owns : s.view f.inner = some (.var ns name) := (later.lasts.view_eq there kept).trans owns₁
  obtain ⟨s', l, consults, came⟩ :=
    Action.runOn_resolve_inMemory level attached (ready₀.of_lasts lasts) ns name
  rcases s.world.memory.lookup_cases ns name with ⟨-, unbound, -⟩ | ⟨-, unbound, -⟩ | ⟨-, -, found⟩
  · exact (unbound bound).elim
  · exact (unbound bound).elim
  rw [found] at came
  obtain ⟨body, latest⟩ := bound
  have held : (s'.owning (.var ns name)).view f.inner = some (.var ns name) := by
    have older : f.inner.index < s'.owned.length := by
      rw [consults.owned]
      exact State.lt_length_of_view owns
    rw [s'.view_owning_of_lt _ older, State.view, consults.owned]
    exact owns
  have fresh := s'.view_owning (.var ns name)
  refine ⟨_, _, body, came, held, fresh, fun t' args => ?_, latest, ?_⟩
  · apply Action.runOn_invoke_congr
    · exact held.trans fresh.symm
    · simp only [Callable.qualifiedName, scope, named]
  · change (s'.world.memory.var? ns name).map _ = _
    rw [consults.memory.var?_eq, latest]
    rfl

/-- A variable is resolved and then bound again: the callable from before and a fresh one are called alike, and
both do the latest thing. -/
theorem held_callables_are_fresh_demo :
    ∃ f s₁, (Action.resolve host "demo" "f").runOn .main demoState = (.ok f, s₁) ∧
      ∃ g s', (Action.resolve host "demo" "f").runOn .main
          (s₁.editing (.define "demo" "f" (.const (.int 2)))) = (.ok g, s') ∧
        (∀ args, (Action.invoke host f args).runOn .main s' =
          (Action.invoke host g args).runOn .main s') ∧
        Memory.function? s'.world.memory (.var "demo" "f") = some ("demo/f", .const (.int 2)) := by
  have ready : demoState.world.memory.Ready := demo_ready.of_lasts demo_session.lasts.memory
  have here := Memory.World.resolves nestingLimit demo_inMemory ready "demo" "f"
  have left := Action.leaves_resolve nestingLimit demo_inMemory ready "demo" "f"
  obtain ⟨f, ok⟩ := here.succeeds_iff.mpr ⟨_, Memory.World.var?_define_self _ "demo" "f" _⟩
  have owns := (here.gives f ok).1
  cases resolved : (Action.resolve (hosts.host nestingLimit) "demo" "f").runOn .main demoState with
  | mk result s₁ =>
  rw [resolved] at ok left owns
  cases ok
  have attached : (s₁.editing (.define "demo" "f" (.const (.int 2)))).InMemory .main ⟨0⟩ :=
    ⟨left.2.cached, left.2.live⟩
  have kept : (s₁.editing (.define "demo" "f" (.const (.int 2)))).view f.inner ≠ none := by
    intro gone
    cases owns.symm.trans gone
  obtain ⟨g, s', body, again, -, -, same, latest, does⟩ := held_callables_are_fresh nestingLimit
    demo_ready demo_session demo_inMemory resolved (.edit .start _) attached kept
  have now := (Memory.World.var?_define_self s₁.world.memory "demo" "f" (.const (.int 2))).symm.trans latest
  cases now
  exact ⟨f, s₁, resolved, g, s', again, same .main, does⟩

end HostBridge
