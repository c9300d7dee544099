import HostBridge.Proofs.ColouredText
import HostBridge.Proofs.WrittenCharacters

/-!
# Templates filled with colours

A template is filled from fields with the level in colour as it is from fields without, conversion by conversion, as
long as it shows the level in colour by plain conversions only. What it is filled with has no escape characters that
come neither from the template nor from a field.
-/

namespace HostBridge.Logging.LineFormat

open Text.Template (Spec Piece Flags Count pieces select resolve takeNext convert fillUp fillSpec fillPieces widthBound
  precisionBound oneCharacter)

variable {α β γ δ : Type}

/-! ### Two runs -/

/-- Both runs fail with the same fault, or both come to results that are related. -/
inductive Alike (R : α → β → Prop) : Except Fault α → Except Fault β → Prop
  | failed (fault : Fault) : Alike R (.error fault) (.error fault)
  | came {a : α} {b : β} : R a b → Alike R (.ok a) (.ok b)

namespace Alike

variable {R : α → β → Prop} {S : γ → δ → Prop} {x : Except Fault α} {y : Except Fault β}

theorem refl {R : α → α → Prop} (x : Except Fault α) (same : ∀ a, x = .ok a → R a a) :
    Alike R x x := by
  cases x with
  | error fault => exact .failed fault
  | ok a => exact .came (same a rfl)

/-- One step after another. -/
theorem bind {f : α → Except Fault γ} {g : β → Except Fault δ} (first : Alike R x y)
    (rest : ∀ a b, R a b → Alike S (f a) (g b)) : Alike S (x >>= f) (y >>= g) := by
  cases first with
  | failed fault => exact .failed fault
  | came holds => exact rest _ _ holds

/-- What follows from the relation, when the first run comes to its result. -/
theorem mono {S : α → β → Prop} (alike : Alike R x y)
    (implies : ∀ a b, x = .ok a → R a b → S a b) : Alike S x y := by
  cases alike with
  | failed fault => exact .failed fault
  | came holds => exact .came (implies _ _ rfl holds)

private theorem not_came {a : α} (alike : Alike (fun _ _ => False) x y) (came : x = .ok a) : False := by
  cases alike with
  | failed fault => cases came
  | came holds => exact holds

end Alike

/-! ### Fields in colour -/

/-- The fields differ in the level in colour only. -/
structure Recoloured (levelName : Value) (entries entries' : List (String × Value)) : Prop where
  others : ∀ name, name ≠ "levelname_color" → entries'.lookup name = entries.lookup name
  level : entries.lookup "levelname_color" = some levelName
  inColour : ∃ v, entries'.lookup "levelname_color" = some v ∧
    Alike (fun text coloured => InColour levelName text.toList coloured.toList) levelName.shown v.shown

/-- A conversion that shows the level in colour is a plain one, and none shows the record as a whole. -/
def ShowsPlainly : Piece → Prop
  | .literal _ => True
  | .conversion spec =>
    (spec.key = .named "levelname_color" → spec.flags = {} ∧ spec.width = .absent ∧ spec.precision = .absent ∧
      spec.letter?.map Prod.fst = some 's') ∧
    (spec.key = .next → ∀ letter ∈ spec.letter?.map Prod.fst, letter ∉ ['s', 'r', 'a'])

instance : DecidablePred ShowsPlainly
  | .literal _ => inferInstanceAs (Decidable True)
  | .conversion _ => inferInstanceAs (Decidable (_ ∧ _))

/-- The mapping of fields that a conversion without a name takes. -/
def mapping (entries : List (String × Value)) : Value := .dict (entries.map fun e => (.text e.1, e.2))

/-- The text of a conversion from its row. -/
def fillRow (spec : Spec) (row : List Value) : Except Fault (List Char × List Value) := do
  let (width?, row) ← resolve widthBound row spec.width
  let (precision?, row) ← resolve precisionBound row spec.precision
  match spec.letter? with
  | none => .error (.standard .value "incomplete format")
  | some (letter, index) =>
    let (v, row) ← takeNext row
    let (parts, mayZero) ← convert spec.flags (precision?.map Int.toNat) letter index v
    let width := width?.getD 0
    let size := if width.natAbs ≤ widthBound.greatest then width.natAbs else 0
    .ok (fillUp (spec.flags.left || width < 0) (spec.flags.zeros && mayZero) size parts, row)

private theorem fillSpec_eq (source? : Option (String → Option Value)) (spec : Spec) (row : List Value) :
    fillSpec source? spec row = select source? row spec.key >>= fillRow spec := rfl

private theorem row_of_resolve {bound : Text.Template.Bound} {row row' : List Value} {count : Count} {n? : Option Int}
    (came : resolve bound row count = .ok (n?, row')) : row' = row ∨ row' = row.tail := by
  cases count with
  | absent =>
    cases came
    exact .inl rfl
  | given n =>
    change (if n ≤ bound.greatest then _ else _) = _ at came
    split at came
    · cases came
      exact .inl rfl
    · cases came
  | next =>
    obtain ⟨⟨v, rest⟩, taken, read⟩ := Except.exists_of_bind_eq_ok came
    cases row with
    | nil => cases taken
    | cons v row =>
      cases taken
      dsimp only at read
      split at read
      · obtain ⟨n, -, ended⟩ := Except.exists_of_bind_eq_ok read
        cases ended
        exact .inr rfl
      · cases read
        exact .inr rfl
      · cases read

private theorem convert_dict (flags : Flags) (precision? : Option Nat) (index : Nat) {letter : Char}
    (other : letter ∉ ['s', 'r', 'a']) (entries entries' : List (Value × Value)) :
    ∃ fault, convert flags precision? letter index (.dict entries) = .error fault ∧
      convert flags precision? letter index (.dict entries') = .error fault := by
  unfold convert
  split
  case h_1 | h_2 | h_3 => exact (other (by decide)).elim
  all_goals exact ⟨_, rfl, rfl⟩

private theorem alike_resolve_dict (bound : Text.Template.Bound) (count : Count)
    (entries entries' : List (Value × Value)) :
    Alike (fun r r' => r.1 = r'.1 ∧ r.2 = [.dict entries] ∧ r'.2 = [.dict entries'])
      (resolve bound [.dict entries] count) (resolve bound [.dict entries'] count) := by
  cases count with
  | absent => exact .came ⟨rfl, rfl, rfl⟩
  | next => exact .failed _
  | given n =>
    by_cases small : n ≤ bound.greatest
    · simp only [resolve, if_pos small]
      exact .came ⟨rfl, rfl, rfl⟩
    · simp only [resolve, if_neg small]
      exact .failed _

private theorem alike_fillRow_dict {R : List Char × List Value → List Char × List Value → Prop} {spec : Spec}
    (plain : ∀ letter ∈ spec.letter?.map Prod.fst, letter ∉ ['s', 'r', 'a']) (entries entries' : List (Value × Value)) :
    Alike R (fillRow spec [.dict entries]) (fillRow spec [.dict entries']) := by
  refine (alike_resolve_dict widthBound spec.width entries entries').bind ?_
  rintro ⟨width?, _⟩ ⟨_, _⟩ ⟨rfl, rfl, rfl⟩
  refine (alike_resolve_dict precisionBound spec.precision entries entries').bind ?_
  rintro ⟨precision?, _⟩ ⟨_, _⟩ ⟨rfl, rfl, rfl⟩
  cases letter : spec.letter? with
  | none => exact .failed _
  | some found =>
    obtain ⟨c, index⟩ := found
    rw [letter] at plain
    obtain ⟨fault, failed, failed'⟩ :=
      convert_dict spec.flags (precision?.map Int.toNat) index (plain c rfl) entries entries'
    simp only [takeNext, bind, Except.bind, failed, failed']
    exact .failed fault

private theorem exists_of_fillRow {spec : Spec} {row row' : List Value} {text : List Char}
    (came : fillRow spec row = .ok (text, row')) :
    ∃ v letter index precision? parts mayZero left zeros size, v :: row' <:+ row ∧
      spec.letter? = some (letter, index) ∧ convert spec.flags precision? letter index v = .ok (parts, mayZero) ∧
      text = fillUp left zeros size parts := by
  have suffix {row row' : List Value} (left : row' = row ∨ row' = row.tail) : row' <:+ row := by
    rcases left with rfl | rfl
    · exact List.suffix_refl _
    · exact List.tail_suffix _
  obtain ⟨⟨width?, row₁⟩, resolved, came⟩ := Except.exists_of_bind_eq_ok came
  obtain ⟨⟨precision?, row₂⟩, resolved', came⟩ := Except.exists_of_bind_eq_ok came
  have rest := (suffix (row_of_resolve resolved')).trans (suffix (row_of_resolve resolved))
  dsimp only at came
  split at came
  · cases came
  next letter index found =>
    obtain ⟨⟨v, row₃⟩, taken, shown⟩ := Except.exists_of_bind_eq_ok came
    obtain ⟨⟨parts, mayZero⟩, converted, ended⟩ := Except.exists_of_bind_eq_ok shown
    cases row₂ with
    | nil => cases taken
    | cons w row₂ =>
      cases taken
      cases ended
      exact ⟨v, letter, index, _, parts, mayZero, _, _, _, rest, found, converted, rfl⟩

private theorem fillRow_plain {spec : Spec} (flags : spec.flags = {}) (width : spec.width = .absent)
    (precision : spec.precision = .absent) (letter : spec.letter?.map Prod.fst = some 's') (v : Value) :
    fillRow spec [v] = v.shown.map fun s => (s.toList, []) := by
  obtain ⟨⟨c, index⟩, found, same⟩ := Option.map_eq_some_iff.mp letter
  have isText : c = 's' := same
  subst isText
  have converted : convert {} none 's' index v =
      v.shown.map fun s => ({ sign := [], base := [], body := s.toList }, false) := rfl
  unfold fillRow
  rw [width, precision, found, flags]
  cases shown : v.shown with
  | error fault => simp [resolve, takeNext, bind, Except.bind, converted, shown, Except.map]
  | ok s => simp [resolve, takeNext, bind, Except.bind, converted, shown, Except.map, fillUp]

/-! ### Filling the template -/

section Filling

variable {levelName : Value} {entries entries' : List (String × Value)} {row row' : List Value}

/-- A template is filled from the fields as a whole until a field was named. -/
inductive Fed (entries entries' : List (String × Value)) : List Value → List Value → Prop
  | whole : Fed entries entries' [mapping entries] [mapping entries']
  | used : Fed entries entries' [] []

private theorem not_fillRow_nil {spec : Spec} {r : List Char × List Value} : fillRow spec [] ≠ .ok r := by
  intro came
  obtain ⟨v, _, _, _, _, _, _, _, _, suffix, -⟩ := exists_of_fillRow came
  exact List.cons_ne_nil _ _ (List.suffix_nil.mp suffix)

private theorem exists_of_fillRow_single {spec : Spec} {v : Value} {text : List Char}
    (came : fillRow spec [v] = .ok (text, row)) :
    row = [] ∧ ∃ letter index precision? parts mayZero left zeros size, spec.letter? = some (letter, index) ∧
      convert spec.flags precision? letter index v = .ok (parts, mayZero) ∧ text = fillUp left zeros size parts := by
  obtain ⟨w, letter, index, precision?, parts, mayZero, left, zeros, size, suffix, found, converted, rfl⟩ :=
    exists_of_fillRow came
  rcases List.suffix_cons_iff.mp suffix with whole | none
  · cases whole
    exact ⟨rfl, letter, index, precision?, parts, mayZero, left, zeros, size, found, converted, rfl⟩
  · exact (List.cons_ne_nil _ _ (List.suffix_nil.mp none)).elim

private theorem alike_fillRow_next {R : List Char × List Value → List Char × List Value → Prop} {spec : Spec}
    (plain : ShowsPlainly (.conversion spec)) (next : spec.key = .next) (fed : Fed entries entries' row row') :
    Alike R (fillRow spec row) (fillRow spec row') := by
  cases fed with
  | whole => exact alike_fillRow_dict (plain.2 next) _ _
  | used => exact .refl _ fun _ came => (not_fillRow_nil came).elim

private theorem alike_fillSpec (recoloured : Recoloured levelName entries entries') {spec : Spec}
    (plain : ShowsPlainly (.conversion spec)) (fed : Fed entries entries' row row') :
    Alike (fun r r' => InColour levelName r.1 r'.1 ∧ r.2 = [] ∧ r'.2 = [])
      (fillSpec (some fun name => entries.lookup name) spec row)
      (fillSpec (some fun name => entries'.lookup name) spec row') := by
  rw [fillSpec_eq, fillSpec_eq]
  cases key : spec.key with
  | next => exact alike_fillRow_next plain key fed
  | unclosed => exact .failed _
  | named name =>
    by_cases level : name = "levelname_color"
    · subst level
      obtain ⟨flags, width, precision, letter⟩ := plain.1 key
      obtain ⟨v, found, inColour⟩ := recoloured.inColour
      simp only [select, recoloured.level, found, bind, Except.bind,
        fillRow_plain flags width precision letter]
      generalize levelName.shown = shown at inColour ⊢
      generalize v.shown = shown' at inColour ⊢
      cases inColour with
      | failed fault => exact .failed fault
      | came inColour => exact .came ⟨inColour, rfl, rfl⟩
    · simp only [select, recoloured.others name level]
      cases entries.lookup name with
      | none => exact .failed _
      | some v =>
        refine .refl (fillRow spec [v]) fun r came => ⟨.refl _, ?_⟩
        have used := (exists_of_fillRow_single came).1
        exact ⟨used, used⟩

private theorem alike_fillPieces (recoloured : Recoloured levelName entries entries') {pieces : List Piece}
    (plain : ∀ piece ∈ pieces, ShowsPlainly piece) (fed : Fed entries entries' row row') :
    Alike (fun r r' => InColour levelName r.1 r'.1)
      (fillPieces (some fun name => entries.lookup name) pieces row)
      (fillPieces (some fun name => entries'.lookup name) pieces row') := by
  induction pieces generalizing row row' with
  | nil => exact .came .done
  | cons piece rest ih =>
    obtain ⟨first, later⟩ := List.forall_mem_cons.mp plain
    cases piece with
    | literal c => exact (ih later fed).bind fun r r' inColour => .came (.kept c inColour)
    | conversion spec =>
      refine (alike_fillSpec recoloured first fed).bind ?_
      rintro ⟨text, _⟩ ⟨coloured, _⟩ ⟨inColour, rfl, rfl⟩
      exact (ih later .used).bind fun r r' inColour' => .came (inColour.append inColour')

/-- Templates that show plainly are filled alike, in colour or not. -/
theorem alike_fillFields (recoloured : Recoloured levelName entries entries') {template : String}
    (plain : ∀ piece ∈ pieces template.toList, ShowsPlainly piece) :
    Alike (fun text coloured => InColour levelName text.toList coloured.toList) (fillFields template entries)
      (fillFields template entries') := by
  have filled := alike_fillPieces recoloured plain .whole
  unfold mapping at filled
  unfold fillFields Text.Template.fillFrom
  generalize fillPieces (some fun name => entries.lookup name) _ _ = first at filled ⊢
  generalize fillPieces (some fun name => entries'.lookup name) _ _ = second at filled ⊢
  cases filled with
  | failed fault =>
    simp only [Except.map]
    split <;> exact .failed _
  | came inColour =>
    simp only [Except.map]
    refine .came ?_
    rw [String.toList_ofList, String.toList_ofList]
    exact inColour

/-! ### Escape characters from elsewhere -/

/-- No escape characters come from the template or the fields: not from the texts of a field, and not from a field
that is shown as the character that it is the code of. -/
structure EscapeFree (template : String) (entries : List (String × Value)) : Prop where
  literal : escape ∉ template.toList
  texts : ∀ name v, entries.lookup name = some v →
    escape ∉ (v.display View.blank).toList ∧ escape ∉ (v.literal View.blank).toList
  codes : ∀ spec index name v, .conversion spec ∈ pieces template.toList → spec.key = .named name →
    spec.letter? = some ('c', index) → entries.lookup name = some v → oneCharacter v ≠ .ok [escape]

private theorem escape_not_mem_fillSpec {template : String} (free : EscapeFree template entries) {spec : Spec}
    (there : .conversion spec ∈ pieces template.toList) (plain : ShowsPlainly (.conversion spec))
    (fed : Fed entries entries' row row') {r : List Char × List Value}
    (came : fillSpec (some fun name => entries.lookup name) spec row = .ok r) : escape ∉ r.1 ∧ r.2 = [] := by
  rw [fillSpec_eq] at came
  cases key : spec.key with
  | next =>
    have failed : Alike (fun _ _ => False) (fillRow spec row) (fillRow spec row') := alike_fillRow_next plain key fed
    rw [key] at came
    exact (failed.not_came came).elim
  | unclosed =>
    rw [key] at came
    cases came
  | named name =>
    rw [key] at came
    cases found : entries.lookup name with
    | none =>
      simp only [select, found] at came
      cases came
    | some v =>
      simp only [select, found] at came
      obtain ⟨used, letter, index, precision?, parts, mayZero, left, zeros, size, isLetter, converted, shown⟩ :=
        exists_of_fillRow_single came
      refine ⟨fun escapes => ?_, used⟩
      have hidden : ¬ IsVisible escape := by decide
      rw [shown] at escapes
      have escapes := (Text.Template.mem_fillUp escapes).resolve_left hidden
      obtain ⟨display, literal⟩ := free.texts name v found
      rcases Text.Template.mem_of_convert converted escapes with visible | member | member | ⟨rfl, code⟩
      · exact hidden visible
      · exact display member
      · exact literal member
      · exact free.codes spec index name v there key isLetter found code

private theorem escape_not_mem_fillPieces {template : String} (free : EscapeFree template entries)
    (plain : ∀ piece ∈ pieces template.toList, ShowsPlainly piece) {these : List Piece}
    (there : ∀ piece ∈ these, piece ∈ pieces template.toList) (fed : Fed entries entries row row)
    {r : List Char × List Value} (came : fillPieces (some fun name => entries.lookup name) these row = .ok r) :
    escape ∉ r.1 := by
  induction these generalizing row r with
  | nil =>
    cases came
    exact List.not_mem_nil
  | cons piece rest ih =>
    obtain ⟨first, later⟩ := List.forall_mem_cons.mp there
    cases piece with
    | literal c =>
      obtain ⟨⟨text, left⟩, filled, ended⟩ := Except.exists_of_bind_eq_ok came
      cases ended
      have other : escape ≠ c := by
        rintro rfl
        rcases Text.Template.mem_of_literal_mem_pieces first with percent | member
        · exact absurd percent (by decide)
        · exact free.literal member
      exact List.not_mem_cons_of_ne_of_not_mem other (ih later fed filled)
    | conversion spec =>
      obtain ⟨⟨head, left⟩, shown, further⟩ := Except.exists_of_bind_eq_ok came
      obtain ⟨⟨tail, left'⟩, filled, ended⟩ := Except.exists_of_bind_eq_ok further
      cases ended
      obtain ⟨clean, used⟩ := escape_not_mem_fillSpec free first (plain _ first) fed shown
      cases used
      rw [List.mem_append, not_or]
      exact ⟨clean, ih later .used filled⟩

/-- A template without escapes is filled without any. -/
theorem escape_not_mem_fillFields {template text : String} (free : EscapeFree template entries)
    (plain : ∀ piece ∈ pieces template.toList, ShowsPlainly piece)
    (came : fillFields template entries = .ok text) : escape ∉ text.toList := by
  have filled := fun r => escape_not_mem_fillPieces free plain (fun _ => id) .whole (r := r)
  unfold mapping at filled
  unfold fillFields Text.Template.fillFrom at came
  generalize fillPieces _ _ _ = shown at filled came
  cases shown with
  | error fault =>
    simp only [Except.map] at came
    split at came <;> cases came
  | ok r =>
    simp only [Except.map] at came
    cases came
    rw [String.toList_ofList]
    exact filled r rfl

end Filling

end HostBridge.Logging.LineFormat
