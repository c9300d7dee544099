import HostBridge.Memory.Backends
import HostBridge.Proofs.Following

/-!
# What lasts in the in-memory host

Variables can be added to the world, and bound again, but nothing that the host does removes or unbinds one.
Nor does it change the entry class, or arrange failures where none are arranged. The proofs follow the
functions of the host one by one; those that call back do so between steps of their own.
-/

namespace HostBridge.Memory

namespace World

variable {α : Type} {name other : String}

open Table (lookup_put_self lookup_put_other)

/-! ### Variables -/

variable {w : World} {ns ns' : String}

/-- The variable is there, and has a body. -/
def Binds (w : World) (ns name : String) : Prop := ∃ body, w.var? ns name = some (some body)

/-- A variable that is defined is bound to what it is defined as. -/
theorem var?_define_self (w : World) (ns name : String) (body : Body) :
    (w.define ns name body).var? ns name = some (some body) := by
  simp [var?, scope?, define, lookup_put_self]

/-- Defining a variable leaves the others as they are. -/
theorem var?_define_other (different : ns' ≠ ns ∨ other ≠ name) (w : World) (body : Body) :
    (w.define ns name body).var? ns' other = w.var? ns' other := by
  by_cases same : ns' = ns
  · subst same
    have differ : other ≠ name := different.resolve_left (fun h => h rfl)
    simp only [var?, scope?, define, lookup_put_self, Option.bind_some, lookup_put_other differ]
    cases w.namespaces.lookup ns' <;> rfl
  · simp only [var?, scope?, define, lookup_put_other same]

private theorem var?_intern_of_some {body? : Option Body} (there : w.var? ns' other = some body?)
    (ns name : String) : (w.intern ns name).var? ns' other = some body? := by
  by_cases same : ns' = ns
  · subst same
    obtain ⟨vars, scope, found⟩ := Option.bind_eq_some_iff.mp there
    have kept : (if vars.any (·.1 == name) then vars else vars ++ [(name, none)]).lookup other =
        some body? := by
      split
      · exact found
      · rw [List.lookup_append, found, Option.some_or]
    have interned : (w.intern ns' name).scope? ns' = some _ := lookup_put_self w.namespaces ns' _
    rw [var?, interned, Option.bind_some, scope, Option.getD_some]
    exact kept
  · simpa only [var?, scope?, intern, lookup_put_other same] using there

/-! ### What lasts -/

/-- The second world has the entry class of the first, failures are arranged only if they were before, and
what was bound still is. -/
structure Lasts (w w' : World) : Prop where
  entryClass : w'.entryClass = w.entryClass
  rules : w.rules = [] → w'.rules = []
  bound : ∀ ns name, w.Binds ns name → w'.Binds ns name

instance : Lasting Lasts where
  refl _ := ⟨rfl, id, fun _ _ => id⟩
  trans first second :=
    ⟨second.entryClass.trans first.entryClass, second.rules ∘ first.rules,
      fun ns name bound => second.bound ns name (first.bound ns name bound)⟩

private theorem Lasts.of_same {w' : World} (namespaces : w'.namespaces = w.namespaces)
    (entryClass : w'.entryClass = w.entryClass) (rules : w.rules = [] → w'.rules = []) : w.Lasts w' := by
  refine ⟨entryClass, rules, ?_⟩
  rintro ns name ⟨body, bound⟩
  refine ⟨body, ?_⟩
  rw [var?, scope?, namespaces]
  exact bound

/-- A world with the same namespaces, entry class and arranged failures. -/
theorem Lasts.of_eq {w' : World} (namespaces : w'.namespaces = w.namespaces)
    (entryClass : w'.entryClass = w.entryClass) (rules : w'.rules = w.rules) : w.Lasts w' :=
  .of_same namespaces entryClass rules.trans

/-- A definition binds its variable and leaves the others. -/
theorem Lasts.define (w : World) (ns name : String) (body : Body) : w.Lasts (w.define ns name body) := by
  refine ⟨rfl, id, ?_⟩
  rintro ns' other ⟨body', bound⟩
  by_cases same : ns' = ns ∧ other = name
  · obtain ⟨rfl, rfl⟩ := same
    exact ⟨body, var?_define_self w ns' other body⟩
  · refine ⟨body', ?_⟩
    rw [var?_define_other (Decidable.not_and_iff_or_not.mp same), bound]

/-- Interning unbinds nothing. -/
theorem Lasts.intern (w : World) (ns name : String) : w.Lasts (w.intern ns name) := by
  refine ⟨rfl, id, ?_⟩
  rintro ns' other ⟨body, bound⟩
  exact ⟨body, var?_intern_of_some bound ns name⟩

/-! ### What all changes keep to -/

/-- A relation that all changes of the world keep to: namespaces change only when a variable is interned or
defined, names are added to the loaded ones, failures are not arranged but counted down, and the entry class
stays. -/
class Evolving (W : World → World → Prop) : Prop extends Lasting W where
  same : ∀ {w w' : World}, w'.namespaces = w.namespaces → w'.loaded = w.loaded →
    w'.entryClass = w.entryClass → (w.rules = [] → w'.rules = []) → W w w'
  intern : ∀ w ns name, W w (w.intern ns name)
  define : ∀ w ns name body, W w (w.define ns name body)
  mark : ∀ (w : World) ns, W w { w with loaded := w.loaded ++ [ns] }

/-- What is there lasts. -/
instance : Evolving Lasts where
  same namespaces _ entryClass rules := .of_same namespaces entryClass rules
  intern := Lasts.intern
  define := Lasts.define
  mark _ _ := .of_eq rfl rfl rfl

/-- Names that are loaded stay loaded. -/
def KeepsLoaded (w w' : World) : Prop := ∀ ns ∈ w.loaded, ns ∈ w'.loaded

instance : Evolving KeepsLoaded where
  refl _ _ := id
  trans first second ns there := second ns (first ns there)
  same _ loaded _ _ _ there := loaded ▸ there
  intern _ _ _ _ := id
  define _ _ _ _ _ := id
  mark _ _ _ := List.mem_append_left _

/-- Loading a namespace defines variables and adds its name. -/
theorem Evolving.load {W : World → World → Prop} [Evolving W] (w : World) (ns : String)
    (defs : List (String × Body)) : W w (w.load ns defs) := by
  have defined : W w (defs.foldl (fun w d => w.define ns d.1 d.2) w) := by
    induction defs generalizing w with
    | nil => exact Lasting.refl w
    | cons d rest ih => exact Lasting.trans (Evolving.define w ns d.1 d.2) (ih _)
  refine Lasting.trans defined ?_
  rw [World.load]
  split
  · exact Lasting.refl _
  · exact Evolving.mark _ ns

end World

/-! ### Functions -/


open HostBridge.Hosted (Follows)

/-- The work keeps to a relation that all changes of the world keep to. -/
abbrev Evolves (W : World → World → Prop) {α : Type} (p : Work α) : Prop := Hosted.Follows W p

variable {W : World → World → Prop} [World.Evolving W]

private theorem evolves_findNamespace (v : Value) : Evolves W (findNamespace v) :=
  Follows.bind (Follows.ofExcept _) fun _ => Follows.bind Follows.get fun _ => Follows.pure _

private theorem evolves_takeItems (n coll : Value) : Evolves W (takeItems n coll) := by
  refine Follows.bind (Follows.ofExcept _) fun n? => ?_
  split
  · exact Follows.modifyGet fun _ => World.Evolving.same rfl rfl rfl id
  · split
    · exact Follows.pure _
    · exact Follows.pure _
    · exact Follows.throw _

private theorem evolves_requireNamespace (v : Value) : Evolves W (requireNamespace v) := by
  unfold requireNamespace
  split
  · refine Follows.bind (Follows.modify fun _ => World.Evolving.same rfl rfl rfl id) fun _ => ?_
    refine Follows.bind Follows.get fun w => ?_
    split
    · exact Follows.throw _
    · split
      · exact Follows.pure _
      · split
        · exact Follows.throw _
        · exact Follows.bind (Follows.modify fun w => World.Evolving.load w _ _) fun _ => Follows.pure _
  · exact Follows.throw _

private theorem evolves_callBuiltin (b : Builtin) (args : List Value) : Evolves W (callBuiltin b args) := by
  unfold callBuiltin
  split
  · exact evolves_requireNamespace _
  · exact evolves_findNamespace _
  · exact evolves_takeItems _ _
  · exact Follows.ofExcept _
  · exact Follows.bind Follows.get fun _ => Follows.bind (Follows.ofExcept _) fun _ => Follows.pure _
  · split
    · exact Follows.bind (Follows.ofExcept _) fun _ => Follows.pure _
    · exact Follows.throw _
  · exact Follows.ofExcept _
  · exact Follows.pure _
  · exact Follows.pure _
  · exact Follows.pure _
  · exact Follows.ofExcept _
  · exact Follows.modifyGet fun _ => World.Evolving.same rfl rfl rfl id
  · exact Follows.pure _
  · exact Follows.throw _

private theorem evolves_ownAll (args : List Value) : Evolves W (ownAll args) := by
  induction args with
  | nil => exact Follows.pure _
  | cons v rest ih => exact Follows.bind (Follows.request _) fun _ => Follows.bind ih fun _ => Follows.pure _

private theorem evolves_reenter (ns name : String) (args : List Value) : Evolves W (reenter ns name args) := by
  refine Follows.bind (Follows.request _) fun found => ?_
  split
  · refine Follows.bind (evolves_ownAll args) fun owners => ?_
    refine Follows.bind (Follows.request _) fun result => ?_
    split
    · exact Follows.request _
    · exact Follows.throw _
  · exact Follows.throw _

private theorem evolves_callSimple (body : Body) (args : List Value) : Evolves W (callSimple body args) := by
  cases body with
  | builtin b => exact evolves_callBuiltin b args
  | const v => exact Follows.pure v
  | arguments => exact Follows.pure _
  | fail fault => exact Follows.throw fault
  | reenter ns name => exact evolves_reenter ns name args
  | make label body => exact Follows.modifyGet fun _ => World.Evolving.same rfl rfl rfl id
  | detach => exact Follows.request _

private theorem evolves_loadString (v : Value) : Evolves W (loadString v) := by
  unfold loadString
  split
  · refine Follows.bind Follows.get fun w => ?_
    split
    · exact evolves_callSimple _ _
    · split
      · exact Follows.throw _
      · exact Follows.throw _
  · exact Follows.throw _

private theorem evolves_reportingArity (label : String) (args : Nat) {call : Work Value} (h : Evolves W call) :
    Evolves W (reportingArity label args call) := by
  refine Follows.tryCatch h fun fault => ?_
  split <;> exact Follows.throw _

private theorem evolves_callWithItem (f item : Value) : Evolves W (callWithItem f item) := by
  refine Follows.bind Follows.get fun w => ?_
  split
  · exact Follows.throw _
  · refine evolves_reportingArity _ _ ?_
    split
    · exact evolves_loadString _
    · exact evolves_callSimple _ _

private theorem evolves_callWithItems (f : Value) (items : List Value) : Evolves W (callWithItems f items) := by
  induction items with
  | nil => exact Follows.pure _
  | cons item rest ih =>
    exact Follows.bind (evolves_callWithItem f item) fun _ => Follows.bind ih fun _ => Follows.pure _

private theorem evolves_callFunction (label : String) (body : Body) (args : List Value) :
    Evolves W (callFunction label body args) := by
  refine evolves_reportingArity _ _ ?_
  unfold callBody
  split
  · split
    · exact Follows.bind (evolves_callWithItems _ _) fun _ => Follows.pure _
    · exact Follows.throw _
  · exact evolves_loadString _
  · exact evolves_callSimple _ _

/-! ### Calls -/

private theorem evolves_classNamed (name : Value) : Evolves W (classNamed name) := by
  refine Follows.bind Follows.get fun w => Follows.bind (Follows.ofExcept _) fun entryClass => ?_
  split
  · exact Follows.pure _
  · split
    · exact Follows.pure _
    · exact Follows.pure _
    · exact Follows.pure _
    · exact Follows.bind Follows.get fun _ => Follows.throw _

private theorem evolves_fieldOf (target : Value) (name : String) : Evolves W (fieldOf target name) := by
  refine Follows.bind Follows.get fun w => ?_
  split
  · exact Follows.pure _
  · exact Follows.throw _

private theorem evolves_printLine (v : Value) : Evolves W (printLine v) := by
  have printed (line : String) :
      Evolves W (modify (fun w : World => { w with lines := w.lines ++ [line] }) >>= fun _ => pure Value.nil) :=
    Follows.bind (Follows.modify fun _ => World.Evolving.same rfl rfl rfl id) fun _ => Follows.pure _
  unfold printLine
  split
  · exact Follows.throw _
  · exact Follows.bind (Follows.pure _) printed
  · exact Follows.bind Follows.get fun _ => Follows.bind (Follows.ofExcept _) printed

private theorem evolves_readForm (v : Value) : Evolves W (readForm v) := by
  unfold readForm
  split
  · split
    · exact Follows.pure _
    · exact Follows.throw _
  · exact Follows.throw _

private theorem evolves_internSymbol (v : Value) : Evolves W (internSymbol v) := by
  unfold internSymbol
  split
  · exact Follows.pure _
  · exact Follows.throw _

private theorem evolves_method (target : Value) (name : String) (args : List Value) :
    Evolves W (method target name args) := by
  unfold method
  split
  · exact evolves_readForm _
  · exact evolves_internSymbol _
  · exact evolves_findNamespace _
  · exact Follows.bind (Follows.ofExcept _) fun _ => Follows.bind Follows.get fun _ => Follows.pure _
  · exact Follows.bind Follows.get fun _ => Follows.pure _
  · exact evolves_printLine _
  · exact Follows.throw _
  · exact Follows.throw _
  · exact Follows.throw _
  · exact Follows.throw _
  · exact Follows.throw _
  · exact Follows.throw _
  · refine Follows.bind Follows.get fun w => ?_
    split
    · exact evolves_callFunction _ _ _
    · exact Follows.bind Follows.get fun _ => Follows.throw _
  · exact Follows.bind Follows.get fun _ => Follows.throw _

private theorem evolves_note (backend : BackendId) (call : Call) : Evolves W (note backend call) := by
  refine Follows.bind (Follows.modifyGet fun w => World.Evolving.same rfl rfl rfl fun none => ?_) fun fault? => ?_
  · rw [none]
    rfl
  · split
    · exact Follows.throw _
    · exact Follows.pure _

private theorem evolves_afterAttach (backend : BackendId) : Evolves W (afterAttach backend) := by
  unfold afterAttach
  split
  · exact Follows.request _
  · split
    · refine Follows.tryCatch (Follows.request _) fun fault => ?_
      split
      · exact Follows.bind (Follows.modify fun _ => World.Evolving.same rfl rfl rfl id) fun _ => Follows.pure _
      · exact Follows.throw _
    · exact Follows.pure _

/-- What a backend does for a call, once it has been noted. -/
def carryOut (backend : BackendId) (call : Call) : Work Value :=
  match call with
  | .attach => afterAttach backend
  | .detach => return .nil
  | .staticClass name => classNamed name
  | .field target name => fieldOf target name
  | .invoke target name args => reportingThrown (method target name args)
  | .box v => do
    if backend = firstBackend then modify fun w => { w with boxed := w.boxed ++ [v] }
    return v
  | .unbox ref => primitiveOf ref

/-- Carrying a call out notes it first, unless it is an attach that was told to fail. -/
theorem perform_cases (backend : BackendId) (call : Call) (w : World) :
    perform backend call w = (note backend call >>= fun _ => carryOut backend call) w ∨
      call = .attach ∧ ∃ fault, perform backend call w = .answer w (.error fault) := by
  have opened : perform backend call w = (if backend = firstBackend ∧ w.failAttach = true then _ else _ :
    Work Value) w := rfl
  by_cases refusing : backend = firstBackend ∧ w.failAttach = true
  · rw [opened, if_pos refusing]
    cases call with
    | attach => exact .inr ⟨rfl, _, rfl⟩
    | _ => exact .inl rfl
  · rw [opened, if_neg refusing]
    exact .inl rfl

/-- Whatever call the host carries out, all that is there lasts. -/
theorem evolves_perform (backend : BackendId) (call : Call) : Evolves W (perform backend call) := by
  intro w
  rcases perform_cases backend call w with noted | ⟨-, fault, refused⟩
  · rw [noted]
    refine Follows.bind (evolves_note backend call) (fun _ => ?_) w
    cases call with
    | attach => exact evolves_afterAttach backend
    | detach => exact Follows.pure _
    | staticClass name => exact evolves_classNamed name
    | field target name => exact evolves_fieldOf target name
    | invoke target name args =>
      refine Follows.tryCatch (evolves_method target name args) fun fault => ?_
      split <;> exact Follows.throw _
    | box v =>
      unfold carryOut
      dsimp only
      split
      · exact Follows.bind (Follows.modify fun _ => World.Evolving.same rfl rfl rfl id) fun _ => Follows.pure _
      · exact Follows.pure _
    | unbox ref =>
      unfold carryOut primitiveOf
      dsimp only
      split
      · exact Follows.pure _
      · exact Follows.pure _
      · exact Follows.throw _
  · rw [refused]
    exact Lasting.refl w

end HostBridge.Memory
