/-!
# Running computations that change a state and may fail

What such a computation comes to from a state, by the parts it is made of. A computation that fails keeps
the state reached so far.
-/

namespace Except

variable {ε α β : Type}

/-- What comes of two steps comes of the second one. -/
theorem exists_of_bind_eq_ok {x : Except ε α} {f : α → Except ε β} {b : β} (came : x >>= f = .ok b) :
    ∃ a, x = .ok a ∧ f a = .ok b := by
  cases x with
  | error fault => cases came
  | ok a => exact ⟨a, rfl, came⟩

/-- What comes of a mapped step is made of what came of the step. -/
theorem exists_of_map_eq_ok {x : Except ε α} {f : α → β} {b : β} (came : x.map f = .ok b) :
    ∃ a, x = .ok a ∧ f a = b := by
  cases x with
  | error fault => cases came
  | ok a => exact ⟨a, rfl, Except.ok.inj came⟩

end Except

namespace ExceptT

variable {ε σ α β : Type}

/-- What a computation comes to from a state, and the state after it. -/
def runOn (p : ExceptT ε (StateM σ) α) (s : σ) : Except ε α × σ := p s

/-- A value is given at once. -/
@[simp] theorem runOn_pure (a : α) (s : σ) :
    (pure a : ExceptT ε (StateM σ) α).runOn s = (.ok a, s) := rfl

/-- A failure leaves the state. -/
@[simp] theorem runOn_throw (e : ε) (s : σ) :
    (throw e : ExceptT ε (StateM σ) α).runOn s = (.error e, s) := rfl

/-- The second computation starts where the first one ended, unless that failed. -/
@[simp] theorem runOn_bind (p : ExceptT ε (StateM σ) α) (f : α → ExceptT ε (StateM σ) β) (s : σ) :
    (p >>= f).runOn s = match p.runOn s with
      | (.ok a, s') => (f a).runOn s'
      | (.error e, s') => (.error e, s') := by
  simp only [runOn, bind, ExceptT.bind, ExceptT.mk, StateT.bind]
  cases h : p s with
  | mk r s' => cases r <;> rfl

/-- A function of the result changes nothing. -/
@[simp] theorem runOn_map (f : α → β) (p : ExceptT ε (StateM σ) α) (s : σ) :
    (f <$> p).runOn s = ((p.runOn s).1.map f, (p.runOn s).2) := by
  simp only [runOn, Functor.map, ExceptT.map, ExceptT.mk, StateT.bind, bind]
  cases h : p s with
  | mk r s' => cases r <;> rfl

/-- Dropping the result changes nothing. -/
@[simp] theorem runOn_discard (p : ExceptT ε (StateM σ) α) (s : σ) :
    (discard p).runOn s = ((p.runOn s).1.map fun _ => ⟨⟩, (p.runOn s).2) :=
  runOn_map (fun _ => PUnit.unit) p s

/-- The state is read without a change. -/
@[simp] theorem runOn_get (s : σ) : (get : ExceptT ε (StateM σ) σ).runOn s = (.ok s, s) := rfl

/-- A change of the state always succeeds. -/
@[simp] theorem runOn_modify (f : σ → σ) (s : σ) :
    (modify f : ExceptT ε (StateM σ) PUnit).runOn s = (.ok ⟨⟩, f s) := rfl

/-- An outcome is given again. -/
@[simp] theorem runOn_ofExcept (r : Except ε α) (s : σ) :
    (MonadExcept.ofExcept r : ExceptT ε (StateM σ) α).runOn s = (r, s) := by
  cases r <;> rfl

@[simp] theorem runOn_forM_nil (f : α → ExceptT ε (StateM σ) PUnit) (s : σ) :
    (([] : List α).forM f).runOn s = (.ok ⟨⟩, s) := rfl

/-- Several things are done one after another, until one of them fails. -/
@[simp] theorem runOn_forM_cons (f : α → ExceptT ε (StateM σ) PUnit) (a : α) (rest : List α) (s : σ) :
    ((a :: rest).forM f).runOn s = match (f a).runOn s with
      | (.ok _, s') => (rest.forM f).runOn s'
      | (.error e, s') => (.error e, s') := by
  rw [List.forM, runOn_bind]
  cases (f a).runOn s with
  | mk result s' => cases result <;> rfl

/-- If all of them succeed, so does the first one, and so do the others after it. -/
theorem of_runOn_forM_cons {f : α → ExceptT ε (StateM σ) PUnit} {a : α} {rest : List α} {u : PUnit}
    {s s' : σ} (ran : ((a :: rest).forM f).runOn s = (.ok u, s')) :
    ∃ v s₁, (f a).runOn s = (.ok v, s₁) ∧ (rest.forM f).runOn s₁ = (.ok u, s') := by
  rw [runOn_forM_cons] at ran
  cases first : (f a).runOn s with
  | mk result s₁ =>
  rw [first] at ran
  cases result with
  | error e => cases ran
  | ok v => exact ⟨v, s₁, rfl, ran⟩

end ExceptT
