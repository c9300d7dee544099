import HostBridge.Source.Fragments

/-!
# What dedenting does to a text without a margin

Where the first line begins with something else than spaces and tabs, no line loses any indentation; but a line
that holds nothing else is emptied, unless it is the last one. Character by character, that is to pass over
spaces and tabs at the beginning of a line if a line feed is what follows them.
-/

namespace HostBridge.Source

variable {c : Char} {text before rest : List Char} {held : Bool}

/-- Do the spaces and tabs that a text begins with go on to a line feed? -/
def startsBlank (text : List Char) : Bool :=
  (text.dropWhile isIndent).head? == some '\n'

/-- Empty the lines that hold spaces and tabs only, up to a line feed. If `held`, the first line holds
something else before the text. -/
def clear : Bool → List Char → List Char
  | _, [] => []
  | held, c :: rest =>
    if !held && isIndent c && startsBlank rest then clear false rest else c :: clear (c != '\n') rest

/-- There is a line that holds spaces and tabs only, and some, between two line feeds. -/
def HasBlankLine (text : List Char) : Prop :=
  ∃ before blank after, text = before ++ '\n' :: (blank ++ '\n' :: after) ∧ blank ≠ [] ∧
    ∀ c ∈ blank, isIndent c = true

/-! ### Clearing character by character -/

/-- Nothing goes on to no line feed. -/
@[simp] theorem startsBlank_nil : startsBlank [] = false := rfl

/-- Indentation goes on. -/
theorem startsBlank_cons (c : Char) (rest : List Char) :
    startsBlank (c :: rest) = if isIndent c then startsBlank rest else c == '\n' := by
  by_cases indent : isIndent c = true
  · simp [startsBlank, indent]
  · simp [startsBlank, indent]

/-- Where a line holds something, characters stay. -/
theorem clear_true_cons (c : Char) (rest : List Char) :
    clear true (c :: rest) = c :: clear (c != '\n') rest := by
  simp [clear]

/-- A line feed stays, and what follows it is at the beginning of a line. -/
theorem clear_feed (held : Bool) (rest : List Char) :
    clear held ('\n' :: rest) = '\n' :: clear false rest := by
  have other : isIndent '\n' = false := by decide
  simp [clear, other]

/-- A character that is neither indentation nor a line feed makes its line hold something. -/
theorem clear_content (other : isIndent c = false) (sameLine : c ≠ '\n') (held : Bool) (rest : List Char) :
    clear held (c :: rest) = c :: clear true rest := by
  have goesOn : (c != '\n') = true := bne_iff_ne.mpr sameLine
  simp [clear, other, goesOn]

/-- Indentation is no line feed. -/
theorem ne_feed_of_isIndent (indent : isIndent c = true) : c ≠ '\n' := by
  rintro rfl
  exact absurd indent (by decide)

private theorem clear_indent (indent : isIndent c = true) (stays : held = true ∨ startsBlank rest = false) :
    clear held (c :: rest) = c :: clear true rest := by
  have goesOn : (c != '\n') = true := bne_iff_ne.mpr (ne_feed_of_isIndent indent)
  rcases stays with rfl | line
  · simp [clear, goesOn]
  · simp [clear, line, goesOn]

private theorem clear_blank (indent : isIndent c = true) (blank : startsBlank rest = true) :
    clear false (c :: rest) = clear false rest := by
  simp [clear, indent, blank]

private theorem startsBlank_append_content (other : isIndent c = false) (sameLine : c ≠ '\n')
    (before rest : List Char) : startsBlank (before ++ c :: rest) = startsBlank before := by
  induction before with
  | nil => simp [startsBlank_cons, other, sameLine]
  | cons b before ih => rw [List.cons_append, startsBlank_cons, startsBlank_cons, ih]

/-- So clearing goes on from such a character as if the text began there. -/
theorem clear_append_content (other : isIndent c = false) (sameLine : c ≠ '\n') (held : Bool)
    (before rest : List Char) :
    clear held (before ++ c :: rest) = clear held before ++ c :: clear true rest := by
  induction before generalizing held with
  | nil => simp [clear_content other sameLine, clear]
  | cons b before ih =>
    have same := startsBlank_append_content other sameLine before rest
    rw [List.cons_append, clear, clear, same]
    split
    · exact ih false
    · rw [ih, List.cons_append]

/-- A row of such characters stays. -/
theorem clear_append_of_content {word : List Char} (content : ∀ c ∈ word, isIndent c = false ∧ c ≠ '\n')
    (rest : List Char) : clear true (word ++ rest) = word ++ clear true rest := by
  induction word with
  | nil => rfl
  | cons c word ih =>
    obtain ⟨⟨other, sameLine⟩, others⟩ := List.forall_mem_cons.mp content
    rw [List.cons_append, clear_content other sameLine, ih others, List.cons_append]

private theorem clear_append_feed (held : Bool) (before rest : List Char) :
    clear held (before ++ '\n' :: rest) = clear held (before ++ ['\n']) ++ clear false rest := by
  have same (before : List Char) : startsBlank (before ++ '\n' :: rest) = startsBlank (before ++ ['\n']) := by
    induction before with
    | nil => rfl
    | cons b before ih => simp only [List.cons_append, startsBlank_cons, ih]
  induction before generalizing held with
  | nil => simp [clear_feed, clear]
  | cons b before ih =>
    rw [List.cons_append, List.cons_append, clear, clear, same before]
    split
    · exact ih false
    · rw [ih, List.cons_append]

/-! ### What clearing leaves as it is -/

private theorem length_clear_le (held : Bool) (text : List Char) : (clear held text).length ≤ text.length := by
  induction text generalizing held with
  | nil => simp [clear]
  | cons c rest ih =>
    rw [clear]
    split
    · exact Nat.le_succ_of_le (ih false)
    · exact Nat.succ_le_succ (ih _)

private theorem startsBlank_of_indent {blank : List Char} (indent : ∀ c ∈ blank, isIndent c = true)
    (after : List Char) : startsBlank (blank ++ '\n' :: after) = true := by
  induction blank with
  | nil => rfl
  | cons c blank ih =>
    obtain ⟨first, others⟩ := List.forall_mem_cons.mp indent
    rw [List.cons_append, startsBlank_cons, if_pos first, ih others]

private theorem of_startsBlank (blank : startsBlank text = true) :
    ∃ indent after, text = indent ++ '\n' :: after ∧ ∀ c ∈ indent, isIndent c = true := by
  induction text with
  | nil => cases blank
  | cons c rest ih =>
    rw [startsBlank_cons] at blank
    split at blank
    next first =>
      obtain ⟨indent, after, rfl, others⟩ := ih blank
      exact ⟨c :: indent, after, rfl, List.forall_mem_cons.mpr ⟨first, others⟩⟩
    next =>
      rw [beq_iff_eq.mp blank]
      exact ⟨[], rest, rfl, by simp⟩

private theorem clear_ne_of_hasBlankLine (has : HasBlankLine text) (held : Bool) : clear held text ≠ text := by
  obtain ⟨before, blank, after, rfl, some_indent, indent⟩ := has
  obtain ⟨c, blank, rfl⟩ := List.exists_cons_of_ne_nil some_indent
  obtain ⟨first, others⟩ := List.forall_mem_cons.mp indent
  intro same
  have lengths := congrArg List.length same
  have kept := length_clear_le held (before ++ ['\n'])
  have dropped := length_clear_le false (blank ++ '\n' :: after)
  rw [clear_append_feed, List.cons_append, clear_blank first (startsBlank_of_indent others after)] at lengths
  simp only [List.length_append, List.length_cons, List.length_nil] at lengths kept dropped
  omega

private theorem hasBlankLine_of_clear_ne (changed : clear held text ≠ text) :
    HasBlankLine text ∨ held = false ∧ ∃ blank after, text = blank ++ '\n' :: after ∧ blank ≠ [] ∧
      ∀ c ∈ blank, isIndent c = true := by
  induction text generalizing held with
  | nil => exact (changed rfl).elim
  | cons c rest ih =>
    rw [clear] at changed
    split at changed
    next passed =>
      simp only [Bool.and_eq_true, Bool.not_eq_true'] at passed
      obtain ⟨⟨line, first⟩, blank⟩ := passed
      obtain ⟨indent, after, rfl, others⟩ := of_startsBlank blank
      exact .inr ⟨line, c :: indent, after, rfl, List.cons_ne_nil _ _, List.forall_mem_cons.mpr ⟨first, others⟩⟩
    next =>
      refine .inl ?_
      rcases ih fun same => changed (by rw [same]) with ⟨before, blank, after, rfl, indent⟩ | ⟨feed, inside⟩
      · exact ⟨c :: before, blank, after, rfl, indent⟩
      · obtain ⟨blank, after, rfl, indent⟩ := inside
        have isFeed : c = '\n' := by simpa using feed
        exact ⟨[], blank, after, by rw [isFeed]; rfl, indent⟩

/-- Clearing what comes after something leaves just the texts as they are that have no such line. -/
theorem clear_eq_iff : clear true text = text ↔ ¬ HasBlankLine text := by
  refine ⟨fun same has => clear_ne_of_hasBlankLine has true same, fun hasNot => ?_⟩
  refine Decidable.byContradiction fun changed => ?_
  rcases hasBlankLine_of_clear_ne changed with has | ⟨held, -⟩
  · exact hasNot has
  · cases held

/-! ### Dedenting line by line -/

/-- Keep a line that holds something, and empty the others. -/
def keep (line : List Char) : List Char :=
  if hasContent line then line else []

private theorem dedentLine_nil (line : List Char) : dedentLine [] line = keep line := by
  simp [dedentLine, keep]

private theorem lines_eq_cons (text : List Char) : ∃ first others, lines text = first :: others := by
  cases text with
  | nil => exact ⟨[], [], rfl⟩
  | cons c rest =>
    rw [lines]
    split
    · exact ⟨_, _, rfl⟩
    · split <;> exact ⟨_, _, rfl⟩

private theorem lines_cons {first : List Char} {others : List (List Char)} (sameLine : c ≠ '\n')
    (split : lines rest = first :: others) : lines (c :: rest) = (c :: first) :: others := by
  simp [lines, sameLine, split]

private theorem unlines_cons (c : Char) (first : List Char) (others : List (List Char)) :
    unlines ((c :: first) :: others) = c :: unlines (first :: others) := by
  cases others <;> rfl

private theorem unlines_nil_cons (first : List Char) (others : List (List Char)) :
    unlines ([] :: first :: others) = '\n' :: unlines (first :: others) := rfl

private theorem hasContent_of_startsBlank {first : List Char} {others : List (List Char)}
    (split : lines text = first :: others) (blank : startsBlank text = true) : hasContent first = false := by
  induction text generalizing first others with
  | nil => cases blank
  | cons c rest ih =>
    rw [startsBlank_cons] at blank
    by_cases feed : c = '\n'
    · rw [lines, if_pos feed] at split
      cases split
      rfl
    · obtain ⟨first', others', split'⟩ := lines_eq_cons rest
      rw [lines_cons feed split'] at split
      cases split
      by_cases indent : isIndent c = true
      · rw [if_pos indent] at blank
        simpa [hasContent, indent] using ih split' blank
      · rw [if_neg indent, beq_iff_eq] at blank
        exact (feed blank).elim

/-- Does the text end with a space or a tab? -/
def EndsIndented (text : List Char) : Prop := ∃ c ∈ text.getLast?, isIndent c = true

private theorem EndsIndented.cons (ends : EndsIndented rest) (c : Char) : EndsIndented (c :: rest) := by
  obtain ⟨last, isLast, indent⟩ := ends
  refine ⟨last, ?_, indent⟩
  rw [List.getLast?_cons, isLast]
  rfl

/-- What goes on to no line feed, and does not end with spaces and tabs, holds something else on the first
line. -/
theorem hasContent_of_not_startsBlank {first : List Char} {others : List (List Char)}
    (split : lines text = first :: others) (line : startsBlank text = false) (nonempty : text ≠ [])
    (ends : ¬ EndsIndented text) : hasContent first = true := by
  induction text generalizing first others with
  | nil => exact (nonempty rfl).elim
  | cons c rest ih =>
    rw [startsBlank_cons] at line
    by_cases indent : isIndent c = true
    · have sameLine := ne_feed_of_isIndent indent
      obtain ⟨first', others', split'⟩ := lines_eq_cons rest
      rw [lines_cons sameLine split'] at split
      cases split
      rw [if_pos indent] at line
      have goesOn : rest ≠ [] := by
        rintro rfl
        exact ends ⟨c, rfl, indent⟩
      have later := ih split' line goesOn fun inner => ends (inner.cons c)
      simp only [hasContent, List.any_cons, Bool.or_eq_true] at later ⊢
      exact .inr later
    · rw [if_neg indent, beq_eq_false_iff_ne] at line
      obtain ⟨first', others', split'⟩ := lines_eq_cons rest
      rw [lines_cons line split'] at split
      cases split
      simp [hasContent, indent]

private theorem unlines_keep {first : List Char} {others : List (List Char)} (split : lines text = first :: others)
    (ends : ¬ EndsIndented text) (held : Bool) :
    unlines ((if held then first else keep first) :: others.map keep) = clear held text := by
  induction text generalizing first others held with
  | nil =>
    cases split
    cases held <;> rfl
  | cons c rest ih =>
    obtain ⟨first', others', split'⟩ := lines_eq_cons rest
    have goesOn := ih split' fun inner => ends (inner.cons c)
    by_cases feed : c = '\n'
    · subst feed
      rw [lines, if_pos rfl, split'] at split
      cases split
      have nothing : (if held then [] else keep []) = [] := by cases held <;> rfl
      rw [nothing, List.map_cons, unlines_nil_cons, clear_feed, ← goesOn false]
      rfl
    · rw [lines_cons feed split'] at split
      cases split
      -- A line that stays as a whole begins with its first character.
      have stays (kept : held = true ∨ hasContent (c :: first') = true) :
          unlines ((if held then c :: first' else keep (c :: first')) :: others.map keep) =
            c :: clear true rest := by
        have whole : (if held then c :: first' else keep (c :: first')) = c :: first' := by
          rcases kept with rfl | content
          · rfl
          · simp [keep, content]
        rw [whole, unlines_cons, ← goesOn true, if_pos rfl]
      by_cases indent : isIndent c = true
      · cases held with
        | true => rw [stays (.inl rfl), clear_indent indent (.inl rfl)]
        | false =>
          have same : hasContent (c :: first') = hasContent first' := by simp [hasContent, indent]
          cases blank : startsBlank rest with
          | true =>
            have empty := hasContent_of_startsBlank split' blank
            rw [clear_blank indent blank, ← goesOn false]
            simp [keep, same, empty]
          | false =>
            have more : rest ≠ [] := by
              rintro rfl
              exact ends ⟨c, rfl, indent⟩
            have content := hasContent_of_not_startsBlank split' blank more fun inner => ends (inner.cons c)
            rw [stays (.inr (same.trans content)), clear_indent indent (.inr blank)]
      · have other : isIndent c = false := by simpa using indent
        have content : hasContent (c :: first') = true := by simp [hasContent, other]
        rw [stays (.inr content), clear_content other feed]

private theorem margin_of_content {first : List Char} (other : isIndent c = false) (others : List (List Char)) :
    margin ((c :: first) :: others) = [] := by
  have content : hasContent (c :: first) = true := by simp [hasContent, other]
  have nothing : ∀ starts : List (List Char), starts.foldl commonStart [] = [] := by
    intro starts
    induction starts with
    | nil => rfl
    | cons start starts ih => simpa [commonStart] using ih
  simp [margin, content, indentation, other, commonStarts, nothing]

/-- A text that begins with something else than spaces and tabs, and does not end with them, is cleared when
it is dedented. -/
theorem dedent_eq_clear (other : isIndent c = false) (sameLine : c ≠ '\n')
    (ends : ¬ EndsIndented (c :: rest)) : dedent (c :: rest) = c :: clear true rest := by
  obtain ⟨first, others, split⟩ := lines_eq_cons rest
  have whole := lines_cons sameLine split
  have kept := unlines_keep whole ends true
  have content : hasContent (c :: first) = true := by simp [hasContent, other]
  have lineByLine : dedentLine [] = keep := funext dedentLine_nil
  rw [← clear_content other sameLine true, ← kept, dedent, whole, margin_of_content other, lineByLine]
  simp [keep, content]

/-! ### One fragment -/

/-- What is not blank is neither indentation nor a line feed. -/
theorem content_of_not_blank (notBlank : Text.isBlank c = false) : isIndent c = false ∧ c ≠ '\n' := by
  have differs (d : Char) (blank : Text.isBlank d = true) : c ≠ d := by
    rintro rfl
    exact absurd blank (by simp [notBlank])
  refine ⟨?_, differs '\n' (by decide)⟩
  simp [isIndent, differs ' ' (by decide), differs '\t' (by decide)]

private theorem dropWhile_of_head? {p : Char → Bool} (first : ∀ c ∈ text.head?, p c = false) :
    text.dropWhile p = text := by
  cases text with
  | nil => rfl
  | cons c rest => simp [first c rfl]

private theorem strip_of_ends (first : ∀ c ∈ text.head?, Text.isBlank c = false)
    (last : ∀ c ∈ text.getLast?, Text.isBlank c = false) : Text.strip text = text := by
  have fromTheEnd : ∀ c ∈ text.reverse.head?, Text.isBlank c = false := by
    rw [List.head?_reverse]
    exact last
  rw [Text.strip, dropWhile_of_head? first, Text.trimEnd, dropWhile_of_head? fromTheEnd,
    List.reverse_reverse]

/-- A fragment without blanks at its ends is cleared. -/
theorem tidy_eq_clear (first : ∃ c ∈ text.head?, Text.isBlank c = false)
    (last : ∃ c ∈ text.getLast?, Text.isBlank c = false) : tidy text = clear true text := by
  obtain ⟨c, isFirst, notBlank⟩ := first
  obtain ⟨d, isLast, notBlank'⟩ := last
  obtain ⟨rest, rfl⟩ : ∃ rest, text = c :: rest := List.head?_eq_some_iff.mp isFirst
  obtain ⟨other, sameLine⟩ := content_of_not_blank notBlank
  obtain ⟨other', sameLine'⟩ := content_of_not_blank notBlank'
  have ends : ¬ EndsIndented (c :: rest) := by
    rintro ⟨e, isLast', indent⟩
    cases isLast.symm.trans isLast'
    rw [other'] at indent
    cases indent
  have cleared := clear_content other sameLine true rest
  rw [tidy, dedent_eq_clear other sameLine ends, ← cleared]
  apply strip_of_ends
  · rw [cleared]
    rintro _ ⟨⟩
    exact notBlank
  · obtain ⟨init, split⟩ := List.getLast?_eq_some_iff.mp isLast
    rw [split, clear_append_content other' sameLine' true init [], List.getLast?_append]
    rintro _ ⟨⟩
    exact notBlank'

/-- A single fragment with ends that are not blank is joined to itself, its blank lines emptied. -/
theorem joinForms_singleton {fragment : String}
    (first : ∃ c ∈ fragment.toList.head?, Text.isBlank c = false)
    (last : ∃ c ∈ fragment.toList.getLast?, Text.isBlank c = false) :
    joinForms [fragment] = String.ofList (clear true fragment.toList) := by
  have some_content : Text.allBlank fragment.toList = false := by
    obtain ⟨c, isFirst, notBlank⟩ := first
    obtain ⟨rest, split⟩ := List.head?_eq_some_iff.mp isFirst
    simp [Text.allBlank, split, notBlank]
  simp [joinForms, joinFragments, tidied, some_content, tidy_eq_clear first last, unlines, Text.join]

end HostBridge.Source
