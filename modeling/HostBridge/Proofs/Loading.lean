import HostBridge.Proofs.Lookups

/-!
# Loading namespaces in the in-memory host

What the world is after a namespace has been required. The name is added to the record of what was required,
whatever becomes of it; the namespace is loaded if there is code for it and it has not been loaded before.
Loading binds the variables that the code defines and touches no other namespace.
-/

namespace HostBridge.Memory

namespace World

variable {w w' : World} {ns ns' name : String}

/-- Is the namespace loaded, or can it be? -/
def Accepts (w : World) (ns : String) : Prop :=
  ns ≠ "demo.broken" ∧ (ns ∈ w.loaded ∨ (w.loadable.lookup ns).isSome)

/-- The world with one more name on the record of what was required. -/
def asked (w : World) (ns : String) : World := { w with requireCalls := w.requireCalls ++ [ns] }

/-- The world after a namespace was required. -/
def required (w : World) (ns : String) : World :=
  if ns = "demo.broken" ∨ ns ∈ w.loaded then w.asked ns
  else match w.loadable.lookup ns with
    | some defs => (w.asked ns).load ns defs
    | none => w.asked ns

/-- A namespace that is loaded is not loaded again. -/
theorem required_of_loaded (loaded : ns ∈ w.loaded) : w.required ns = w.asked ns := if_pos (.inr loaded)

/-- One that is refused is not loaded. -/
theorem required_of_refused (refused : ¬ w.Accepts ns) : w.required ns = w.asked ns := by
  unfold required
  split
  · rfl
  next other =>
    rw [not_or] at other
    cases found : w.loadable.lookup ns with
    | none => rfl
    | some defs => exact (refused ⟨other.1, .inr (by rw [found]; rfl)⟩).elim

/-- One that is accepted is loaded if it has not been. -/
theorem required_of_new (accepted : w.Accepts ns) (new : ns ∉ w.loaded) :
    ∃ defs, w.loadable.lookup ns = some defs ∧ w.required ns = (w.asked ns).load ns defs := by
  obtain ⟨other, loaded | loadable⟩ := accepted
  · exact (new loaded).elim
  · obtain ⟨defs, found⟩ := Option.isSome_iff_exists.mp loadable
    refine ⟨defs, found, ?_⟩
    rw [required, if_neg (not_or.mpr ⟨other, new⟩), found]

/-! ### Definitions -/

/-- The world with the variables of a namespace defined, one after another. -/
def defineAll (w : World) (ns : String) (defs : List (String × Body)) : World :=
  defs.foldl (fun w d => w.define ns d.1 d.2) w

/-- The world with one more name among the loaded ones. -/
def marked (w : World) (ns : String) : World :=
  { w with loaded := if w.loaded.contains ns then w.loaded else w.loaded ++ [ns] }

private theorem load_eq (w : World) (ns : String) (defs : List (String × Body)) :
    w.load ns defs = (w.defineAll ns defs).marked ns := rfl

private theorem var?_defineAll (w : World) (ns : String) (defs : List (String × Body)) (name : String) :
    (w.defineAll ns defs).var? ns name = match defs.reverse.lookup name with
      | some body => some (some body)
      | none => w.var? ns name := by
  induction defs generalizing w with
  | nil => rfl
  | cons d rest ih =>
    obtain ⟨key, body⟩ := d
    have step : w.defineAll ns ((key, body) :: rest) = (w.define ns key body).defineAll ns rest := rfl
    rw [step, ih, List.reverse_cons, List.lookup_append]
    cases rest.reverse.lookup name with
    | some later => rfl
    | none =>
      by_cases same : name = key
      · subst same
        simp [var?_define_self]
      · rw [Table.lookup_cons_other same]
        exact var?_define_other (.inr same) w body

private theorem scope?_defineAll_other (different : ns' ≠ ns) (w : World) (defs : List (String × Body)) :
    (w.defineAll ns defs).scope? ns' = w.scope? ns' := by
  induction defs generalizing w with
  | nil => rfl
  | cons d rest ih =>
    have defined : (w.define ns d.1 d.2).scope? ns' = w.scope? ns' := Table.lookup_put_other different _ _
    exact (ih (w.define ns d.1 d.2)).trans defined

/-- Loading binds each name to its definition. -/
theorem var?_load (w : World) (ns : String) {defs : List (String × Body)} {body : Body}
    (defines : defs.reverse.lookup name = some body) :
    (w.load ns defs).var? ns name = some (some body) := by
  have bound := var?_defineAll w ns defs name
  rw [defines] at bound
  exact bound

private theorem scope?_load_other (different : ns' ≠ ns) (w : World) (defs : List (String × Body)) :
    (w.load ns defs).scope? ns' = w.scope? ns' :=
  scope?_defineAll_other different w defs

/-- What is loaded is loaded afterwards. -/
theorem mem_loaded_load (w : World) (ns : String) (defs : List (String × Body)) :
    ns ∈ (w.load ns defs).loaded := by
  rw [load_eq, marked]
  dsimp only
  split
  next there => exact List.contains_iff_mem.mp there
  next => exact List.mem_append_right _ (List.mem_singleton_self ns)

/-- What was required with success is loaded. -/
theorem mem_loaded_required (accepted : w.Accepts ns) : ns ∈ (w.required ns).loaded := by
  by_cases loaded : ns ∈ w.loaded
  · rw [required_of_loaded loaded]
    exact loaded
  · obtain ⟨defs, -, loads⟩ := required_of_new accepted loaded
    rw [loads]
    exact mem_loaded_load _ ns defs

private theorem Evolving.required {W : World → World → Prop} [Evolving W] (w : World) (ns : String) :
    W w (w.required ns) := by
  have asked : W w (w.asked ns) := Evolving.same rfl rfl rfl id
  unfold World.required
  split
  · exact asked
  · split
    · exact Lasting.trans asked (Evolving.load _ ns _)
    · exact asked

/-- Requiring a namespace touches no other one. -/
theorem scope?_required_other (different : ns' ≠ ns) (w : World) :
    (w.required ns).scope? ns' = w.scope? ns' := by
  unfold required
  split
  · rfl
  · split
    · exact scope?_load_other different _ _
    · rfl

/-- The name is put on record in any case. -/
theorem requireCalls_required (w : World) (ns : String) :
    (w.required ns).requireCalls = w.requireCalls ++ [ns] := by
  have defined (w : World) (defs : List (String × Body)) :
      (w.defineAll ns defs).requireCalls = w.requireCalls := by
    induction defs generalizing w with
    | nil => rfl
    | cons d rest ih => exact ih (w.define ns d.1 d.2)
  unfold required
  split
  · rfl
  · split
    · exact defined (w.asked ns) _
    · rfl

/-- After it no failures are arranged, either. -/
theorem Ready.of_required (ready : w.Ready) (world : (w.required ns).Consulted w') : w'.Ready :=
  (ready.of_lasts (Evolving.required w ns)).of_lasts world.lasts

/-! ### Worlds that have been consulted -/

namespace Consulted

private theorem asked (consulted : w.Consulted w') (ns : String) : (w.asked ns).Consulted (w'.asked ns) := by
  obtain ⟨boxed, seen, owned, rfl⟩ := consulted
  exact ⟨boxed, seen, owned, rfl⟩

private theorem defineAll (consulted : w.Consulted w') (ns : String) (defs : List (String × Body)) :
    (w.defineAll ns defs).Consulted (w'.defineAll ns defs) := by
  induction defs generalizing w w' with
  | nil => exact consulted
  | cons d rest ih =>
    refine @ih (w.define ns d.1 d.2) (w'.define ns d.1 d.2) ?_
    obtain ⟨boxed, seen, owned, rfl⟩ := consulted
    exact ⟨boxed, seen, owned, rfl⟩

private theorem load (consulted : w.Consulted w') (ns : String) (defs : List (String × Body)) :
    (w.load ns defs).Consulted (w'.load ns defs) := by
  obtain ⟨boxed, seen, owned, same⟩ := consulted.defineAll ns defs
  rw [load_eq, load_eq, same]
  exact ⟨boxed, seen, owned, rfl⟩

/-- Requiring a namespace comes to the same. -/
theorem required (consulted : w.Consulted w') (ns : String) : (w.required ns).Consulted (w'.required ns) := by
  obtain ⟨loaded, loadable⟩ : w'.loaded = w.loaded ∧ w'.loadable = w.loadable := by
    obtain ⟨_, _, _, rfl⟩ := consulted
    exact ⟨rfl, rfl⟩
  unfold World.required
  rw [loaded, loadable]
  split
  · exact consulted.asked ns
  · cases w.loadable.lookup ns with
    | some defs => exact (consulted.asked ns).load ns defs
    | none => exact consulted.asked ns

/-- A world that was only consulted accepts the same namespaces. -/
theorem accepts_iff (consulted : w.Consulted w') (ns : String) : w'.Accepts ns ↔ w.Accepts ns := by
  obtain ⟨_, _, _, rfl⟩ := consulted
  exact Iff.rfl

end Consulted

end World

/-! ### The function that loads -/

variable {w : World} {ns name : String}

private theorem requireNamespace_eq (w : World) (ns : String) : ∃ found : Work Value,
    requireNamespace (.symbol ns) w =
      (if ns = "demo.broken" then throwHost compilerFault "Syntax error compiling at (demo/broken.clj:3:1)"
      else if w.loaded.contains ns then return .nil else found : Work Value) (w.asked ns) ∧
    (w.loadable.lookup ns = none → found = throwHost "java.io.FileNotFoundException"
      ("Could not locate " ++ resourceName ns ++ " on classpath")) ∧
    ∀ defs, w.loadable.lookup ns = some defs →
      found = (modify fun w => w.load ns defs) >>= fun _ => return .nil := by
  refine ⟨_, rfl, fun missing => ?_, fun defs there => ?_⟩
  · dsimp only
    rw [missing]
  · dsimp only
    rw [there]

private theorem requireNamespace_cases (w : World) (ns : String) :
    (w.Accepts ns ∧ requireNamespace (.symbol ns) w = .answer (w.required ns) (.ok .nil)) ∨
      (¬ w.Accepts ns ∧ ∃ className message, requireNamespace (.symbol ns) w =
        .answer (w.required ns) (.error (.thrown className message))) := by
  obtain ⟨found, opened, locates, loads⟩ := requireNamespace_eq w ns
  rw [opened]
  by_cases broken : ns = "demo.broken"
  · right
    have refused : ¬ w.Accepts ns := fun accepted => accepted.1 broken
    rw [if_pos broken, World.required_of_refused refused]
    exact ⟨refused, _, _, rfl⟩
  · rw [if_neg broken]
    by_cases loaded : ns ∈ w.loaded
    · left
      rw [if_pos (List.contains_iff_mem.mpr loaded), World.required_of_loaded loaded]
      exact ⟨⟨broken, .inl loaded⟩, rfl⟩
    · rw [if_neg (mt List.contains_iff_mem.mp loaded)]
      cases there : w.loadable.lookup ns with
      | none =>
        right
        have refused : ¬ w.Accepts ns := by
          rintro ⟨-, loaded' | loadable⟩
          · exact loaded loaded'
          · rw [there] at loadable
            cases loadable
        rw [locates there, World.required_of_refused refused]
        exact ⟨refused, _, _, rfl⟩
      | some defs =>
        left
        have accepted : w.Accepts ns := ⟨broken, .inr (by rw [there]; rfl)⟩
        obtain ⟨defs', there', required⟩ := World.required_of_new accepted loaded
        rw [there] at there'
        cases there'
        rw [loads defs there, required]
        exact ⟨accepted, rfl⟩

/-- Where no failures are arranged, calling the function that loads comes to the same, with a fault of the
host for what was thrown. -/
theorem perform_require_cases (rules : w.rules = [])
    (bound : w.var? ns name = some (some (.builtin .require))) (required : String) (b : BackendId) :
    ∃ w' r, perform b (.invoke (.var ns name) "invoke" [.symbol required]) w = .answer w' r ∧
      (w.required required).Consulted w' ∧
      ((w.Accepts required ∧ r = .ok .nil) ∨
        (¬ w.Accepts required ∧ ∃ className message cause,
          r = .error (.host className message none (some cause)))) := by
  let call : Call := .invoke (.var ns name) "invoke" [.symbol required]
  let noted : World := { w with seen := (b, call) :: w.seen }
  have consulted : w.Consulted noted := ⟨w.boxed, _, w.owned, rfl⟩
  have called {w' : World} {r : Except Fault Value}
      (came : requireNamespace (.symbol required) noted = .answer w' r) : perform b call w =
        reportingThrown (reportingArity (ns ++ "/" ++ name) 1 fun _ => .answer w' r) noted := by
    rw [World.perform_of_noRules rules rfl]
    change (method (.var ns name) "invoke" [.symbol required] noted).handle _ = _
    rw [method_invoke_of_bound (consulted.var?_eq ns name ▸ bound)]
    change ((requireNamespace (.symbol required) noted).handle _).handle _ = _
    rw [came]
    rfl
  refine ⟨noted.required required, ?_⟩
  obtain ⟨accepted, came⟩ | ⟨refused, className, message, came⟩ := requireNamespace_cases noted required
  · exact ⟨.ok .nil, called came, consulted.required required, .inl ⟨accepted, rfl⟩⟩
  · exact ⟨.error (.host className message none (some (.thrown className message))), called came,
      consulted.required required, .inr ⟨refused, _, _, _, rfl⟩⟩

end HostBridge.Memory
