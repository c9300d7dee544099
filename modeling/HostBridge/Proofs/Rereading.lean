import HostBridge.Proofs.Dedenting
import HostBridge.Proofs.Reading

/-!
# Reading printed values as fragments of source

A fragment of source is dedented before it is read. That does not spare the texts inside of a printed value:
their lines that hold spaces and tabs only, between two line feeds, come back empty. Nothing else changes.
-/

namespace HostBridge

open Source (clear HasBlankLine isIndent startsBlank)

namespace Value

mutual

/-- The value in whose texts the lines of spaces and tabs are emptied. -/
def clearLines : Value → Value
  | .text s => .text (String.ofList (clear true s.toList))
  | .coll kind items => .coll kind (clearAllLines items)
  | v => v

/-- Several values, each with the lines of spaces and tabs in its texts emptied. -/
def clearAllLines : List Value → List Value
  | [] => []
  | v :: rest => clearLines v :: clearAllLines rest

end

mutual

/-- The texts inside of a value. -/
def texts : Value → List String
  | .text s => [s]
  | .coll _ items => allTexts items
  | _ => []

/-- The texts inside of several values. -/
def allTexts : List Value → List String
  | [] => []
  | v :: rest => texts v ++ allTexts rest

end

private theorem clearAllLines_eq_map (items : List Value) : clearAllLines items = items.map clearLines := by
  induction items with
  | nil => simp [clearAllLines]
  | cons v rest ih => simp [clearAllLines, ih]

private theorem mem_allTexts {s : String} {items : List Value} : s ∈ allTexts items ↔ ∃ v ∈ items, s ∈ texts v := by
  induction items with
  | nil => simp [allTexts]
  | cons v rest ih => simp [allTexts, ih]

end Value

namespace Memory.Form

variable {v : Value} {name : List Char}

private theorem clearLines_of_isAtom (isAtom : IsAtom v) : v.clearLines = v ∧ v.texts = [] := by
  unfold IsAtom at isAtom
  split at isAtom <;> simp_all [Value.clearLines, Value.texts]

/-! ### Clearing a printed form -/

private theorem clear_word (isWord : Token.IsWord name) (held : Bool) (rest : List Char) :
    clear held (name ++ rest) = name ++ clear true rest := by
  have content : ∀ c ∈ name, isIndent c = false ∧ c ≠ '\n' := fun c member =>
    Source.content_of_not_blank (Token.isAtomChar_iff.mp (isWord.chars c member)).1
  obtain ⟨c, others, rfl⟩ := List.exists_cons_of_ne_nil isWord.nonempty
  obtain ⟨⟨other, sameLine⟩, later⟩ := List.forall_mem_cons.mp content
  rw [List.cons_append, Source.clear_content other sameLine, Source.clear_append_of_content later,
    List.cons_append]

private theorem clear_quote (held : Bool) (rest : List Char) : clear held ('"' :: rest) = '"' :: clear true rest :=
  Source.clear_content (by decide) (by decide) held rest

private theorem startsBlank_flatMap_escape (cs : List Char) : startsBlank (cs.flatMap escape) = startsBlank cs := by
  induction cs with
  | nil => rfl
  | cons c cs ih =>
    rw [List.flatMap_cons]
    by_cases isQuote : c = '"'
    · subst isQuote
      rfl
    · simp only [escape, isQuote, if_false, List.cons_append, List.nil_append, Source.startsBlank_cons, ih]

private theorem clear_flatMap_escape (held : Bool) (cs : List Char) :
    clear held (cs.flatMap escape) = (clear held cs).flatMap escape := by
  induction cs generalizing held with
  | nil => rfl
  | cons c cs ih =>
    by_cases isQuote : c = '"'
    · have written : ('"' :: cs).flatMap escape = '\\' :: '"' :: cs.flatMap escape := rfl
      have backslash (rest : List Char) : clear held ('\\' :: rest) = '\\' :: clear true rest :=
        Source.clear_content (by decide) (by decide) held rest
      rw [isQuote, written, backslash, clear_quote, clear_quote, ih]
      rfl
    · have written (rest : List Char) : (c :: rest).flatMap escape = c :: rest.flatMap escape := by
        simp [escape, isQuote]
      rw [written, clear, clear, startsBlank_flatMap_escape]
      split
      · exact ih false
      · rw [written, ih]

private theorem isBody_clear {body : List Char} (isBody : Token.IsBody body) (held : Bool) :
    Token.IsBody (clear held body) := by
  induction isBody generalizing held with
  | nil => exact .nil
  | escaped sameLine others ih =>
    rw [Source.clear_content (by decide) (by decide), Source.clear_true_cons]
    exact .escaped sameLine (ih _)
  | plain noQuote noBackslash others ih =>
    rw [clear]
    split
    · exact ih false
    · exact .plain noQuote noBackslash (ih _)

private theorem isForm_clearLines (isForm : IsForm v) : IsForm v.clearLines := by
  induction isForm with
  | atom isWord reads =>
    rw [(clearLines_of_isAtom (isAtom_of_ofAtom reads)).1]
    exact .atom isWord reads
  | text isBody =>
    rw [Value.clearLines]
    refine .text ?_
    rw [String.toList_ofList, ← clear_flatMap_escape]
    exact isBody_clear isBody true
  | coll each ih =>
    rw [Value.clearLines, Value.clearAllLines_eq_map]
    refine .coll fun w member => ?_
    obtain ⟨v, inside, rfl⟩ := List.mem_map.mp member
    exact ih v inside

/-- Wherever the form is printed, clearing it gives the form with its texts cleared. -/
def IsCleared (view : View) (v : Value) : Prop :=
  ∀ held rest, clear held ((printed view v).toList ++ rest) =
    (printed view v.clearLines).toList ++ clear true rest

private theorem clear_items {view : View} {items : List Value} (each : ∀ v ∈ items, IsCleared view v)
    (rest : List Char) :
    clear true ((" ".intercalate (items.map (printed view))).toList ++ rest) =
      (" ".intercalate ((items.map Value.clearLines).map (printed view))).toList ++ clear true rest := by
  induction items with
  | nil => rfl
  | cons v others ih =>
    obtain ⟨first, later⟩ := List.forall_mem_cons.mp each
    cases others with
    | nil => simpa using first true rest
    | cons w others =>
      have goesOn := ih later
      have space (rest : List Char) : clear true (' ' :: rest) = ' ' :: clear true rest :=
        Source.clear_true_cons ' ' rest
      have cleared := toList_printed_items view v.clearLines w.clearLines (others.map Value.clearLines)
      rw [toList_printed_items, List.append_assoc, List.cons_append, first true, space, goesOn]
      simp only [List.map_cons] at cleared ⊢
      rw [cleared, List.append_assoc, List.cons_append]

private theorem isCleared_of_isForm (view : View) (isForm : IsForm v) : IsCleared view v := by
  induction isForm with
  | atom isWord reads =>
    intro held rest
    rw [(clearLines_of_isAtom (isAtom_of_ofAtom reads)).1, clear_word (isWord_printed isWord reads view)]
  | @text s isBody =>
    intro held rest
    have written (s : String) : (printed view (.text s)).toList ++ rest =
        '"' :: (s.toList.flatMap escape ++ '"' :: rest) := by
      simp [printed, toList_quoted]
    rw [written, clear_quote, Source.clear_append_content (by decide) (by decide), clear_flatMap_escape,
      Value.clearLines]
    simp [printed, toList_quoted]
  | @coll kind items each ih =>
    intro held rest
    have opens (rest : List Char) : clear held (Token.openBracket kind :: rest) =
        Token.openBracket kind :: clear true rest := by
      cases kind <;> exact Source.clear_content (by decide) (by decide) held rest
    have closes (rest : List Char) : clear true (Token.closeBracket kind :: rest) =
        Token.closeBracket kind :: clear true rest := by
      cases kind <;> exact Source.clear_content (by decide) (by decide) true rest
    rw [toList_printed_coll, List.cons_append, opens, List.append_assoc, clear_items ih, List.singleton_append,
      closes, Value.clearLines, Value.clearAllLines_eq_map, toList_printed_coll]
    simp

private theorem printed_ends (view : View) (isForm : IsForm v) :
    (∃ c ∈ (printed view v).toList.head?, Text.isBlank c = false) ∧
      ∃ c ∈ (printed view v).toList.getLast?, Text.isBlank c = false := by
  cases isForm with
  | atom isWord reads =>
    obtain ⟨nonempty, chars⟩ := isWord_printed isWord reads view
    have notBlank (c : Char) (member : c ∈ (printed view v).toList) : Text.isBlank c = false :=
      (Token.isAtomChar_iff.mp (chars c member)).1
    refine ⟨⟨_, List.head?_eq_some_head nonempty, notBlank _ (List.head_mem nonempty)⟩,
      ⟨_, List.getLast?_eq_some_getLast nonempty, notBlank _ (List.getLast_mem nonempty)⟩⟩
  | @text s isBody =>
    rw [printed, toList_quoted]
    exact ⟨⟨'"', rfl, by decide⟩, '"', by rw [← List.cons_append]; exact List.getLast?_concat .., by decide⟩
  | @coll kind items each =>
    rw [toList_printed_coll]
    refine ⟨⟨_, rfl, ?_⟩, Token.closeBracket kind, ?_, ?_⟩
    · cases kind <;> decide
    · rw [← List.cons_append]
      exact List.getLast?_concat ..
    · cases kind <;> decide

private theorem joinForms_printed (view : View) (isForm : IsForm v) :
    Source.joinForms [printed view v] = printed view v.clearLines := by
  obtain ⟨first, last⟩ := printed_ends view isForm
  have cleared := isCleared_of_isForm view isForm true []
  rw [Source.joinForms_singleton first last]
  simpa [clear] using congrArg String.ofList cleared

/-- A form with its texts cleared equals the form just if there was nothing to clear. -/
theorem equalAs_clearLines_iff (isForm : IsForm v) (item : Bool) :
    v.clearLines.equalAs item v = true ↔ ∀ s ∈ v.texts, ¬ HasBlankLine s.toList := by
  induction isForm generalizing item with
  | atom isWord reads =>
    have isAtom := isAtom_of_ofAtom reads
    obtain ⟨same, noTexts⟩ := clearLines_of_isAtom isAtom
    simp [same, noTexts, equalAs_of_isAtom item isAtom]
  | @text s isBody =>
    have same : (String.ofList (clear true s.toList) = s) ↔ clear true s.toList = s.toList := by
      rw [← String.toList_inj, String.toList_ofList]
    simp [Value.clearLines, Value.texts, Value.equalAs, Primitive.equal, same, Source.clear_eq_iff]
  | @coll kind items each ih =>
    have one_by_one : Value.equalItems (items.map Value.clearLines) items = true ↔
        ∀ v ∈ items, ∀ s ∈ v.texts, ¬ HasBlankLine s.toList := by
      clear each
      induction items with
      | nil => simp [Value.equalItems]
      | cons v rest ihRest =>
        obtain ⟨first, later⟩ := List.forall_mem_cons.mp ih
        simp [Value.equalItems, first true, ihRest later]
    simp only [Value.clearLines, Value.clearAllLines_eq_map, Value.equalAs, beq_self_eq_true, Bool.true_and,
      one_by_one, Value.texts, Value.mem_allTexts]
    constructor
    · intro each s inside
      obtain ⟨v, inside, member⟩ := inside
      exact each v inside s member
    · intro each v inside s member
      exact each s ⟨v, inside, member⟩

end Memory.Form

/-- A printed form that is read as a fragment comes back with its texts cleared. -/
theorem Action.runOn_readForms_printed (level : Nat) {s : State Worlds} {t : ThreadId} {rt : HandleId}
    (serves : s.ReadsAndPrints t rt) (settled : s.Settled) {v : Value}
    (isForm : Memory.Form.IsForm v) (view : View) :
    ∃ id s', (readForms (hosts.host level) [.text (Memory.printed view v)]).runOn t s = (.ok id, s') ∧
      s'.view id = some v.clearLines := by
  have cleared := Memory.Form.isForm_clearLines isForm
  obtain ⟨id, s', read, owns, -⟩ := runOn_readString_of_settled level serves settled
    (Memory.Form.ofText_printed cleared view)
  refine ⟨id, s', ?_, owns⟩
  have fragment : fragmentsIn [.text (Memory.printed view v)] = .ok [Memory.printed view v] := rfl
  rw [readForms, runOn_bind, fragment, runOn_ofExcept]
  dsimp only
  rw [Memory.Form.joinForms_printed view isForm]
  exact read

/-- On a thread that is attached to the in-memory host, with the reader and the printer in place, every value
that was read can be printed, and what is printed can be read as a fragment of source. That gives the value with
the lines of spaces and tabs inside of its texts emptied; so it gives an equal value just if there are none
between two line feeds. -/
theorem rereading_fragments_clears_lines (level : Nat) {s s₁ : State Worlds} {t : ThreadId} {rt : HandleId}
    (serves : s.ReadsAndPrints t rt) {source : String} {id : OpaqueId}
    (read : (Action.readString (hosts.host level) source).runOn t s = (.ok id, s₁)) :
    ∃ v text s₂ id' s₃, s₁.view id = some v ∧
      (Action.prStr (hosts.host level) (.owner id)).runOn t s₁ = (.ok (.text text), s₂) ∧
      (Action.readForms (hosts.host level) [.text text]).runOn t s₂ = (.ok id', s₃) ∧
      s₃.view id' = some v.clearLines ∧
      (v.clearLines.equal v = true ↔ ∀ inner ∈ v.texts, ¬ HasBlankLine inner.toList) := by
  obtain ⟨v, forms, owns, serves₁, settled⟩ := Action.of_runOn_readString level serves read
  have isForm := Memory.Form.isForm_of_ofText forms
  obtain ⟨s₂, printed, gains⟩ := Action.runOn_prStr level serves₁ owns
    (Memory.Form.print_of_isForm isForm)
  obtain ⟨id', s₃, again, owns'⟩ := Action.runOn_readForms_printed level (gains.readsAndPrints serves₁)
    (gains.settled settled) isForm View.blank
  exact ⟨v, _, s₂, id', s₃, owns, printed, again, owns', Memory.Form.equalAs_clearLines_iff isForm false⟩

/-- A text with a line of spaces, quoted. -/
def spacedSource : String := "\"a\n  \nb\""

/-- A text with a line of spaces is read, printed, and read again as a fragment: the spaces are gone. -/
theorem rereading_fragments_clears_lines_spaced :
    ∃ id s₁ text s₂ id' s₃, (Action.readString host spacedSource).runOn .main readerState = (.ok id, s₁) ∧
      (Action.prStr host (.owner id)).runOn .main s₁ = (.ok (.text text), s₂) ∧
      (Action.readForms host [.text text]).runOn .main s₂ = (.ok id', s₃) ∧
      s₃.view id' = some (.text "a\n\nb") := by
  have reads : Memory.Form.ofText spacedSource = .ok (.text "a\n  \nb") := rfl
  obtain ⟨id, s₁, read, owns, -⟩ := Action.runOn_readString_of_settled nestingLimit readerState_serves
    ⟨_, readerState_configured⟩ reads
  obtain ⟨v, text, s₂, id', s₃, owns₁, printed, again, owns₃, -⟩ :=
    rereading_fragments_clears_lines nestingLimit readerState_serves read
  cases owns.symm.trans owns₁
  exact ⟨id, s₁, text, s₂, id', s₃, read, printed, again, owns₃⟩

/-- The value that comes back is not always equal to the one that was printed. -/
theorem rereading_fragments_loses_spaces :
    ∃ id s₁ v text s₂ id' s₃ w,
      (Action.readString host spacedSource).runOn .main readerState = (.ok id, s₁) ∧ s₁.view id = some v ∧
      (Action.prStr host (.owner id)).runOn .main s₁ = (.ok (.text text), s₂) ∧
      (Action.readForms host [.text text]).runOn .main s₂ = (.ok id', s₃) ∧ s₃.view id' = some w ∧
      w.equal v = false := by
  have reads : Memory.Form.ofText spacedSource = .ok (.text "a\n  \nb") := rfl
  have isForm := Memory.Form.isForm_of_ofText reads
  obtain ⟨id, s₁, read, owns, gains⟩ := Action.runOn_readString_of_settled nestingLimit readerState_serves
    ⟨_, readerState_configured⟩ reads
  have serves₁ := gains.readsAndPrints readerState_serves
  have settled := gains.settled ⟨_, readerState_configured⟩
  obtain ⟨s₂, printed, gains'⟩ := Action.runOn_prStr nestingLimit serves₁ owns
    (Memory.Form.print_of_isForm isForm)
  obtain ⟨id', s₃, again, owns'⟩ := Action.runOn_readForms_printed nestingLimit
    (gains'.readsAndPrints serves₁) (gains'.settled settled) isForm View.blank
  have differ : (Value.text "a\n\nb").equal (.text "a\n  \nb") = false := by simp
  exact ⟨id, s₁, _, _, s₂, id', s₃, _, read, owns, printed, again, owns', differ⟩

end HostBridge
