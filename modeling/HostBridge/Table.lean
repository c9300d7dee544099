/-!
# Tables

Rows of named entries in which a name stands once. An entry that is put into a table replaces the one of
its name, or comes last.
-/

namespace HostBridge.Table

variable {α β : Type} {name other : String}

/-- Replace what stands under a name, or add it at the end. -/
def put (entries : List (String × α)) (name : String) (v : α) : List (String × α) :=
  if entries.any (·.1 == name) then entries.map fun e => if e.1 == name then (name, v) else e
  else entries ++ [(name, v)]

/-- Leave out what stands under a name. -/
def remove (entries : List (String × α)) (name : String) : List (String × α) :=
  entries.filter (·.1 != name)

theorem lookup_cons_other (different : other ≠ name) (v : α) (rest : List (String × α)) :
    List.lookup other ((name, v) :: rest) = List.lookup other rest := by
  rw [List.lookup_cons, beq_eq_false_iff_ne.mpr different]

/-- What was put under a name stands there. -/
theorem lookup_put_self (entries : List (String × α)) (name : String) (v : α) :
    (put entries name v).lookup name = some v := by
  unfold put
  split
  next present =>
    induction entries with
    | nil => cases present
    | cons e rest ih =>
      obtain ⟨key, old⟩ := e
      by_cases here : key = name
      · simp [here]
      · have later : rest.any (·.1 == name) = true := by simpa [here] using present
        rw [List.map_cons, if_neg (by simpa using here), lookup_cons_other (Ne.symm here)]
        exact ih later
  next absent =>
    have none : entries.lookup name = none := by
      rw [Bool.not_eq_true, List.any_eq_false] at absent
      rw [List.lookup_eq_none_iff]
      intro e he
      exact bne_iff_ne.mpr fun same => absent e he (beq_iff_eq.mpr same.symm)
    simp [List.lookup_append, none]

/-- What stands under another name stays. -/
theorem lookup_put_other (different : other ≠ name) (entries : List (String × α)) (v : α) :
    (put entries name v).lookup other = entries.lookup other := by
  unfold put
  split
  next present =>
    clear present
    induction entries with
    | nil => rfl
    | cons e rest ih =>
      obtain ⟨key, old⟩ := e
      rw [List.map_cons]
      by_cases here : key = name
      · subst here
        rw [if_pos (beq_self_eq_true key), lookup_cons_other different, lookup_cons_other different, ih]
      · rw [if_neg (by simpa using here), List.lookup_cons, List.lookup_cons, ih]
  next => rw [List.lookup_append, lookup_cons_other different, List.lookup_nil, Option.or_none]

/-- A function of the entries is put where they are. -/
theorem map_put (f : α → β) (entries : List (String × α)) (name : String) (v : α) :
    (put entries name v).map (fun e => (e.1, f e.2)) =
      put (entries.map fun e => (e.1, f e.2)) name (f v) := by
  have same : (entries.map fun e => (e.1, f e.2)).any (·.1 == name) = entries.any (·.1 == name) := by
    simp [Function.comp_def]
  unfold put
  rw [same]
  split
  · simp only [List.map_map]
    refine List.map_congr_left fun old _ => ?_
    by_cases here : old.1 = name
    · simp [here]
    · simp [here]
  · simp

end HostBridge.Table
