import HostBridge.Proofs.Course

/-!
# Rows of calls

Much of what operations do is a row of calls through one handle, with steps in between that give a value or read
what one owns. A property that such steps have, and rows whose parts have it, holds of such a row as soon as it
holds of the calls.
-/

namespace HostBridge

variable {ω : Type}

/-- A property of giving a value, of reading what a value owns, and of rows of computations whose parts have
it. -/
structure Sequential (P : ∀ {α : Type}, Action ω α → Prop) : Prop where
  pure : ∀ {α : Type} (a : α), P (Pure.pure a : Action ω α)
  reference : ∀ id, P (Action.reference id : Action ω Value)
  bind : ∀ {α β : Type} {p : Action ω α} {f : α → Action ω β}, P p → (∀ a, P (f a)) → P (p >>= f)

/-! ### Looking things up -/

/-- Is a function of the host applied? -/
def Call.applies : Call → Bool
  | .invoke _ method _ => method == "invoke"
  | _ => false

/-- Only methods named `invoke` apply a function. -/
theorem Call.applies_invoke {method : String} (other : method ≠ "invoke") {target : Value}
    {args : List Value} : (Call.invoke target method args).applies = false :=
  beq_eq_false_iff_ne.mpr other

/-- A sequential property that finding the handle of the thread has, and every call through a handle that
applies no function. -/
structure Host.Looks (P : ∀ {α : Type}, Action ω α → Prop) (host : Host ω) : Prop
    extends Sequential P where
  currentRuntime : P (Action.currentRuntime host)
  cross : ∀ id call, call.isPrimitive = true → call.applies = false → P (Action.cross host id call)
  invokeStatic : ∀ id className method args, method ≠ "invoke" →
    P (Action.invokeStatic host id className method args)

namespace Host.Looks

variable {P : ∀ {α : Type}, Action ω α → Prop} {host : Host ω}

/-- What is done with the handle of the thread may attach it first. -/
theorem withRuntime (h : host.Looks P) {α : Type} {body : HandleId → Action ω α}
    (inside : ∀ rt, P (body rt)) : P (Action.withRuntime host body) :=
  h.bind h.currentRuntime inside

/-- Making a symbol boxes its name and makes a static call. -/
theorem internSymbol (h : host.Looks P) (rt : HandleId) (name : String) :
    P (Action.internSymbol host rt name) :=
  h.bind (h.cross rt _ rfl rfl) fun _ => h.invokeStatic rt _ _ _ (by decide)

/-- Looking a namespace up makes a symbol and a static call. -/
theorem lookUpNamespace (h : host.Looks P) (rt : HandleId) (ns : String) :
    P (Action.lookUpNamespace host rt ns) :=
  h.bind (h.internSymbol rt ns) fun _ => h.invokeStatic rt _ _ _ (by decide)

/-- Looking for a variable makes up to two method calls more. -/
theorem lookUp (h : host.Looks P) (rt : HandleId) (ns name : String) :
    P (Action.lookUp host rt ns name) := by
  refine h.bind (h.lookUpNamespace rt ns) fun scope => ?_
  split
  · exact h.pure _
  · refine h.bind (h.internSymbol rt name) fun symbol => ?_
    refine h.bind (h.cross rt _ rfl (Call.applies_invoke (by decide))) fun var => ?_
    split
    · exact h.pure _
    · refine h.bind (h.cross rt _ rfl (Call.applies_invoke (by decide))) fun bound => ?_
      split <;> exact h.pure _

end Host.Looks

/-! ### All calls -/

/-- A sequential property that finding the handle of the thread and calling through a handle have. -/
structure Host.Calls (P : ∀ {α : Type}, Action ω α → Prop) (host : Host ω) : Prop
    extends Sequential P where
  currentRuntime : P (Action.currentRuntime host)
  cross : ∀ id call, call.isPrimitive = true → P (Action.cross host id call)
  invokeStatic : ∀ id className method args, P (Action.invokeStatic host id className method args)

namespace Host.Calls

variable {P : ∀ {α : Type}, Action ω α → Prop} {host : Host ω}

/-- Calls that apply no function are some of them. -/
theorem looks (h : host.Calls P) : host.Looks P where
  toSequential := h.toSequential
  currentRuntime := h.currentRuntime
  cross id call primitive _ := h.cross id call primitive
  invokeStatic id className method args _ := h.invokeStatic id className method args

/-- What is done with the handle of the thread may attach it first. -/
theorem withRuntime (h : host.Calls P) {α : Type} {body : HandleId → Action ω α}
    (inside : ∀ rt, P (body rt)) : P (Action.withRuntime host body) :=
  h.looks.withRuntime inside

/-- Handing an argument over boxes primitives. -/
theorem toHost (h : host.Calls P) (rt : HandleId) (a : Argument) : P (Action.toHost host rt a) := by
  cases a with
  | primitive p fits => exact h.cross rt _ rfl
  | reference id => exact h.reference id

/-- Several arguments are handed over one by one. -/
theorem allToHost (h : host.Calls P) (rt : HandleId) (args : List Argument) :
    P (Action.allToHost host rt args) := by
  induction args with
  | nil => exact h.pure []
  | cons a rest ih =>
    refine h.bind (h.toHost rt a) fun v => ?_
    exact h.bind ih fun vs => h.pure _

/-- What is printed may be boxed first. -/
theorem shown (h : host.Calls P) (rt : HandleId) (ref : Value) : P (Action.shown host rt ref) := by
  unfold Action.shown
  split
  · exact h.cross rt _ rfl
  · exact h.pure _

end Host.Calls

end HostBridge
