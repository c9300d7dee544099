import HostBridge.Logging.LineFormat

/-!
# Texts with colours

A text in colour is a text with the name of a level in its colour in places. Deleting the sequences of the terminal
gives the text, if that has no escape characters of its own.
-/

namespace HostBridge.Logging.LineFormat

/-! ### Sequences of the terminal -/

/-- Starts a sequence of the terminal. -/
def escape : Char := '\x1b'

/-- How many characters end a sequence: digits and semicolons up to a letter. -/
def parametersLength? : List Char → Option Nat
  | [] => none
  | c :: rest =>
    if c.isAlpha then some 1
    else if c.isDigit || c = ';' then (parametersLength? rest).map (· + 1)
    else none

/-- How many characters follow on the escape character of a sequence. -/
def sequenceLength? : List Char → Option Nat
  | '[' :: rest => (parametersLength? rest).map (· + 1)
  | _ => none

/-- A text without its sequences, whose first characters are the rest of one. -/
def dropSequences : Nat → List Char → List Char
  | _, [] => []
  | rest + 1, _ :: cs => dropSequences rest cs
  | 0, c :: cs =>
    if c = escape then
      match sequenceLength? cs with
      | some length => dropSequences length cs
      | none => c :: dropSequences 0 cs
    else c :: dropSequences 0 cs

/-- The second text is the first one with the name of the level in its colour in places. Every colour that is opened
there ends right after the name. -/
inductive InColour (levelName : Value) : List Char → List Char → Prop
  | done : InColour levelName [] []
  | kept (c : Char) {text coloured : List Char} : InColour levelName text coloured →
    InColour levelName (c :: text) (c :: coloured)
  | level {name colour : String} {text coloured : List Char} : levelName.plain = .text name →
    colours.lookup name = some colour → InColour levelName text coloured →
    InColour levelName (name.toList ++ text) (colour.toList ++ name.toList ++ colourEnd.toList ++ coloured)

namespace InColour

variable {levelName : Value} {text coloured text' coloured' : List Char}

/-- Without the level the texts are the same. -/
theorem refl (text : List Char) : InColour levelName text text := by
  induction text with
  | nil => exact .done
  | cons c text ih => exact .kept c ih

/-- One text after another. -/
theorem append (first : InColour levelName text coloured) (second : InColour levelName text' coloured') :
    InColour levelName (text ++ text') (coloured ++ coloured') := by
  induction first with
  | done => exact second
  | kept c _ ih => exact .kept c ih
  | level named found _ ih =>
    rw [List.append_assoc, List.append_assoc]
    exact .level named found ih

end InColour

private theorem of_lookup_colours {P : String → String → Prop} (each : ∀ e ∈ colours, P e.1 e.2)
    {name colour : String} (found : colours.lookup name = some colour) : P name colour := by
  obtain ⟨before, after, split, -⟩ := List.lookup_eq_some_iff.mp found
  exact each (name, colour) (by simp [split])

private theorem InColour.getLast?_cases {levelName : Value} {text coloured : List Char}
    (inColour : InColour levelName text coloured) :
    text.getLast? = coloured.getLast? ∨
      (∃ c, text.getLast? = some c ∧ c ≠ '\n') ∧ ∃ c, coloured.getLast? = some c ∧ c ≠ '\n' := by
  induction inColour with
  | done => exact .inl rfl
  | kept c _ ih =>
    rw [List.getLast?_cons, List.getLast?_cons]
    rcases ih with same | ⟨⟨d, last, other⟩, d', last', other'⟩
    · exact .inl (by rw [same])
    · rw [last, last']
      exact .inr ⟨⟨d, rfl, other⟩, d', rfl, other'⟩
  | level named found _ ih =>
    have listed := of_lookup_colours (P := fun name _ => name.toList.getLast?.any (· != '\n') = true)
      (by decide) found
    obtain ⟨c, ended, proper⟩ := (Option.any_eq_true _ _).mp listed
    rw [bne_iff_ne] at proper
    rw [List.getLast?_append, List.getLast?_append, List.getLast?_append]
    rcases ih with same | ⟨⟨d, last, other⟩, d', last', other'⟩
    · rw [same]
      cases List.getLast? _ with
      | none => exact .inr ⟨⟨c, ended, proper⟩, 'm', rfl, by decide⟩
      | some d => exact .inl rfl
    · rw [last, last']
      exact .inr ⟨⟨d, rfl, other⟩, d', rfl, other'⟩

/-- Both texts end a line, or neither does. -/
theorem InColour.getLast?_eq_newline_iff {levelName : Value} {text coloured : List Char}
    (inColour : InColour levelName text coloured) :
    text.getLast? = some '\n' ↔ coloured.getLast? = some '\n' := by
  rcases inColour.getLast?_cases with same | ⟨⟨c, last, other⟩, c', last', other'⟩
  · rw [same]
  · rw [last, last']
    exact iff_of_false (fun same => other (Option.some.inj same)) fun same => other' (Option.some.inj same)

private theorem dropSequences_colour {name colour : String} (found : colours.lookup name = some colour)
    (rest : List Char) :
    dropSequences 0 (colour.toList ++ name.toList ++ colourEnd.toList ++ rest) =
      name.toList ++ dropSequences 0 rest := by
  refine of_lookup_colours (P := fun name colour => ∀ rest,
    dropSequences 0 (colour.toList ++ name.toList ++ colourEnd.toList ++ rest) =
      name.toList ++ dropSequences 0 rest) ?_ found rest
  simp only [colours, List.forall_mem_cons]
  exact ⟨fun _ => rfl, fun _ => rfl, fun _ => rfl, fun _ => rfl, fun _ => rfl, List.forall_mem_nil _⟩

/-- Without its sequences a text in colour is the text, if that has no escape characters. -/
theorem InColour.dropSequences {levelName : Value} {text coloured : List Char}
    (inColour : InColour levelName text coloured) (clean : escape ∉ text) :
    dropSequences 0 coloured = text := by
  induction inColour with
  | done => rfl
  | kept c _ ih =>
    rw [List.mem_cons, not_or] at clean
    rw [LineFormat.dropSequences, if_neg (Ne.symm clean.1), ih clean.2]
  | level named found _ ih =>
    rw [dropSequences_colour found, ih fun there => clean (List.mem_append_right _ there)]

end HostBridge.Logging.LineFormat
