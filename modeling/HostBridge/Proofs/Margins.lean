import Mathlib.Data.List.Forall2
import HostBridge.Proofs.Splitting
import HostBridge.Source.Fragments

/-!
# The margin of a fragment

The margin is the longest row of spaces and tabs that all lines with content begin with. So what is put before
all of them becomes part of the margin, and what a fragment comes to without its margin does not depend on how
far the fragment was indented. No line loses more than the margin.
-/

namespace HostBridge.Source

variable {p a b line text text' : List Char} {ls : List (List Char)}

/-! ### The longest common beginning -/

private theorem isPrefix_commonStart_iff : p <+: commonStart a b ↔ p <+: a ∧ p <+: b := by
  induction a generalizing p b with
  | nil => simp +contextual [commonStart]
  | cons x a ih =>
    cases b with
    | nil => simp +contextual [commonStart]
    | cons y b =>
      rw [commonStart]
      cases p with
      | nil => simp
      | cons z p =>
        by_cases same : x = y
        · simp only [same, if_true, List.cons_prefix_cons, ih]
          exact and_and_left
        · simp only [same, if_false, List.prefix_nil, List.cons_prefix_cons, reduceCtorEq, false_iff]
          rintro ⟨⟨rfl, -⟩, rfl, -⟩
          exact same rfl

private theorem isPrefix_commonStarts_iff {texts : List (List Char)} (nonempty : texts ≠ []) :
    p <+: commonStarts texts ↔ ∀ text ∈ texts, p <+: text := by
  obtain ⟨first, rest, rfl⟩ := List.exists_cons_of_ne_nil nonempty
  rw [commonStarts]
  induction rest generalizing first with
  | nil => simp
  | cons next rest ih =>
    rw [List.foldl_cons, ih _ (List.cons_ne_nil _ _)]
    simp [isPrefix_commonStart_iff, and_assoc]

private theorem commonStart_append (p a b : List Char) : commonStart (p ++ a) (p ++ b) = p ++ commonStart a b := by
  induction p with
  | nil => rfl
  | cons c p ih => simp [commonStart, ih]

private theorem commonStarts_map_append (p : List Char) {texts : List (List Char)} (nonempty : texts ≠ []) :
    commonStarts (texts.map (p ++ ·)) = p ++ commonStarts texts := by
  obtain ⟨first, rest, rfl⟩ := List.exists_cons_of_ne_nil nonempty
  rw [List.map_cons, commonStarts, commonStarts]
  induction rest generalizing first with
  | nil => rfl
  | cons next rest ih =>
    rw [List.map_cons, List.foldl_cons, commonStart_append]
    exact ih _ (List.cons_ne_nil _ _)

/-! ### Lines -/

/-- A line without content holds spaces and tabs only. -/
theorem hasContent_eq_false_iff : hasContent line = false ↔ ∀ c ∈ line, isIndent c = true := by
  simp [hasContent]

private theorem isIndent_of_mem_indentation : ∀ c ∈ indentation line, isIndent c = true :=
  List.all_eq_true.mp List.all_takeWhile

private theorem indentation_append (indent : ∀ c ∈ p, isIndent c = true) (line : List Char) :
    indentation (p ++ line) = p ++ indentation line :=
  List.takeWhile_append_of_pos indent

private theorem hasContent_append (indent : ∀ c ∈ p, isIndent c = true) (line : List Char) :
    hasContent (p ++ line) = hasContent line := by
  rw [hasContent, List.any_append, ← hasContent, hasContent_eq_false_iff.mpr indent, Bool.false_or, hasContent]

/-! ### The margin -/

private theorem indentations_ne_nil (content : ∃ line ∈ ls, hasContent line = true) :
    (ls.filter hasContent).map indentation ≠ [] := by
  obtain ⟨line, member, some⟩ := content
  exact List.ne_nil_of_mem (List.mem_map_of_mem (List.mem_filter.mpr ⟨member, some⟩))

/-- Among lines that do not all lack content, each with content begins with a row of spaces and tabs if the margin
does. -/
theorem isPrefix_margin_iff (content : ∃ line ∈ ls, hasContent line = true) :
    p <+: margin ls ↔ ∀ line ∈ ls, hasContent line = true → p <+: indentation line := by
  rw [margin, isPrefix_commonStarts_iff (indentations_ne_nil content)]
  simp only [List.forall_mem_map, List.mem_filter, and_imp]

private theorem margin_isPrefix (member : line ∈ ls) (content : hasContent line = true) :
    margin ls <+: indentation line :=
  (isPrefix_margin_iff ⟨line, member, content⟩).mp List.prefix_rfl line member content

private theorem isIndent_of_mem_margin : ∀ c ∈ margin ls, isIndent c = true := by
  intro c inside
  by_cases content : ∃ line ∈ ls, hasContent line = true
  · obtain ⟨line, member, some⟩ := content
    exact isIndent_of_mem_indentation c ((margin_isPrefix member some).mem inside)
  · have none : ls.filter hasContent = [] := by
      rw [List.filter_eq_nil_iff]
      exact fun line member some => content ⟨line, member, some⟩
    rw [margin, none] at inside
    cases inside

private theorem eq_margin_append (member : line ∈ ls) (content : hasContent line = true) :
    line = margin ls ++ dedentLine (margin ls) line := by
  have starts : indentation line <+: line := List.takeWhile_prefix _
  obtain ⟨rest, split⟩ := (margin_isPrefix member content).trans starts
  rw [dedentLine, if_pos content, ← split, List.drop_left]

/-- A line keeps its content, or has none. -/
theorem hasContent_dedentLine (member : line ∈ ls) :
    hasContent (dedentLine (margin ls) line) = hasContent line := by
  cases content : hasContent line with
  | true =>
    rw [← hasContent_append isIndent_of_mem_margin, ← eq_margin_append member content, content]
  | false =>
    rw [dedentLine, if_neg (by simp [content])]
    rfl

private theorem exists_head?_ne (content : ∃ line ∈ ls, hasContent line = true) {c : Char}
    (indent : isIndent c = true) :
    ∃ line ∈ ls, hasContent line = true ∧ (dedentLine (margin ls) line).head? ≠ some c := by
  by_contra all
  push Not at all
  -- Otherwise the margin could be longer by that character.
  have longer : margin ls ++ [c] <+: margin ls := by
    rw [isPrefix_margin_iff content]
    intro line member some
    obtain ⟨rest, split⟩ := List.head?_eq_some_iff.mp (all line member some)
    have whole := eq_margin_append member some
    rw [split] at whole
    rw [whole, indentation_append isIndent_of_mem_margin, List.prefix_append_right_inj]
    simp [indentation, indent]
  have lengths := longer.length_le
  simp only [List.length_append, List.length_singleton] at lengths
  omega

/-! ### Dedenting line by line -/

/-- A dedented text has the dedented lines. -/
theorem lines_dedent (text : List Char) :
    lines (dedent text) = (lines text).map (dedentLine (margin (lines text))) := by
  refine lines_unlines ?_ ?_
  · intro line member
    obtain ⟨whole, inside, rfl⟩ := List.mem_map.mp member
    have apart : '\n' ∉ whole := Config.not_mem_of_mem_splitAt (lines_eq_splitAt text ▸ inside)
    rw [dedentLine]
    split
    · exact fun feed => apart (List.mem_of_mem_drop feed)
    · exact List.not_mem_nil
  · rw [Ne, List.map_eq_nil_iff, lines_eq_splitAt, Config.splitAt_eq_splitOn]
    exact List.splitOn_ne_nil '\n' text

private theorem isBlank_of_isIndent {c : Char} (indent : isIndent c = true) : Text.isBlank c = true := by
  simp only [isIndent, Bool.or_eq_true, beq_iff_eq] at indent
  rcases indent with rfl | rfl <;> decide

private theorem allBlank_append (a b : List Char) : Text.allBlank (a ++ b) = (Text.allBlank a && Text.allBlank b) :=
  List.all_append

private theorem allBlank_of_indent (indent : ∀ c ∈ p, isIndent c = true) : Text.allBlank p = true :=
  List.all_eq_true.mpr fun c inside => isBlank_of_isIndent (indent c inside)

private theorem allBlank_unlines (ls : List (List Char)) :
    Text.allBlank (unlines ls) = ls.all Text.allBlank := by
  have feed : Text.isBlank '\n' = true := by decide
  induction ls with
  | nil => rfl
  | cons line ls ih =>
    cases ls with
    | nil => simp [unlines, Text.join]
    | cons next ls =>
      rw [List.all_cons, ← ih]
      simp [unlines, Text.join, Text.allBlank, feed]

private theorem allBlank_dedentLine (member : line ∈ ls) :
    Text.allBlank (dedentLine (margin ls) line) = Text.allBlank line := by
  cases content : hasContent line with
  | true =>
    have whole := congrArg Text.allBlank (eq_margin_append member content)
    rw [whole, allBlank_append, allBlank_of_indent isIndent_of_mem_margin, Bool.true_and]
  | false =>
    rw [allBlank_of_indent (hasContent_eq_false_iff.mp content), dedentLine, if_neg (by simp [content])]
    rfl

/-- What is dedented is blank if the text was. -/
theorem allBlank_dedent (text : List Char) : Text.allBlank (dedent text) = Text.allBlank text := by
  have line_by_line : ((lines text).map (dedentLine (margin (lines text)))).all Text.allBlank =
      (lines text).all Text.allBlank := by
    rw [Bool.eq_iff_iff, List.all_eq_true, List.all_eq_true, List.forall_mem_map]
    exact forall₂_congr fun line member => by rw [allBlank_dedentLine member]
  calc Text.allBlank (dedent text)
      = ((lines text).map (dedentLine (margin (lines text)))).all Text.allBlank := allBlank_unlines _
    _ = (lines text).all Text.allBlank := line_by_line
    _ = Text.allBlank text := by rw [← allBlank_unlines, unlines_lines]

private theorem exists_hasContent (notBlank : Text.allBlank text = false) :
    ∃ line ∈ lines text, hasContent line = true := by
  by_contra none
  push Not at none
  have blank : Text.allBlank text = true := by
    rw [← unlines_lines text, allBlank_unlines, List.all_eq_true]
    intro line member
    exact allBlank_of_indent (hasContent_eq_false_iff.mp (Bool.eq_false_iff.mpr (none line member)))
  rw [blank] at notBlank
  cases notBlank

/-! ### Relative indentation -/

/-- What a text comes to without its margin: every line with content is the margin and what is left of it, every
other line is empty, and no space or tab is left at the beginning of all lines with content. -/
structure IsDedented (m text dedented : List Char) : Prop where
  indent : ∀ c ∈ m, isIndent c = true
  lines : List.Forall₂ (fun line line' => if hasContent line then line = m ++ line' else line' = [])
    (lines text) (lines dedented)
  flush : ∀ c, isIndent c = true →
    ∃ line ∈ Source.lines dedented, hasContent line = true ∧ line.head? ≠ some c

/-- Dedenting a text that is not blank removes its margin. -/
theorem isDedented_dedent (notBlank : Text.allBlank text = false) :
    IsDedented (margin (lines text)) text (dedent text) where
  indent := isIndent_of_mem_margin
  lines := by
    rw [lines_dedent, List.forall₂_map_right_iff, List.forall₂_same]
    intro line member
    split
    next content => exact eq_margin_append member content
    next empty => rw [dedentLine, if_neg empty]
  flush c indent := by
    obtain ⟨line, member, content, other⟩ := exists_head?_ne (exists_hasContent notBlank) indent
    rw [lines_dedent]
    exact ⟨_, List.mem_map_of_mem member, (hasContent_dedentLine member).trans content, other⟩

/-! ### Indenting a fragment -/

/-- A line with content moves to the right by a row of spaces and tabs; another one may hold any other spaces and
tabs. -/
def IndentedLine (p line line' : List Char) : Prop :=
  if hasContent line then line' = p ++ line else ∀ c ∈ line', isIndent c = true

instance (p line line' : List Char) : Decidable (IndentedLine p line line') :=
  letI : Decidable (∀ c ∈ line', isIndent c = true) := List.decidableBAll _ line'
  inferInstanceAs (Decidable (if hasContent line then line' = p ++ line else ∀ c ∈ line', isIndent c = true))

/-- A text is indented by a row of spaces and tabs: all of its lines are. -/
structure Indented (p text text' : List Char) : Prop where
  indent : ∀ c ∈ p, isIndent c = true
  lines : List.Forall₂ (IndentedLine p) (lines text) (lines text')

section Indenting

variable {line' : List Char} {ls' : List (List Char)} (indent : ∀ c ∈ p, isIndent c = true)
include indent

private theorem filter_hasContent_of_indented (pairs : List.Forall₂ (IndentedLine p) ls ls') :
    ls'.filter hasContent = (ls.filter hasContent).map (p ++ ·) := by
  induction pairs with
  | nil => rfl
  | @cons line line' ls ls' pair _ ih =>
    cases content : hasContent line with
    | true =>
      rw [IndentedLine, if_pos content] at pair
      have moved : hasContent line' = true := by rw [pair, hasContent_append indent, content]
      rw [List.filter_cons_of_pos moved, List.filter_cons_of_pos content, List.map_cons, ih, pair]
    | false =>
      rw [IndentedLine, if_neg (by simp [content])] at pair
      have empty := hasContent_eq_false_iff.mpr pair
      rw [List.filter_cons_of_neg (by simp [empty]), List.filter_cons_of_neg (by simp [content]), ih]

private theorem margin_of_indented (pairs : List.Forall₂ (IndentedLine p) ls ls')
    (content : ∃ line ∈ ls, hasContent line = true) : margin ls' = p ++ margin ls := by
  have moved : indentation ∘ (p ++ ·) = (p ++ ·) ∘ indentation :=
    funext fun line => indentation_append indent line
  rw [margin, filter_hasContent_of_indented indent pairs, List.map_map, moved, ← List.map_map,
    commonStarts_map_append p (indentations_ne_nil content), margin]

private theorem dedentLine_of_indented {m m' : List Char} (longer : hasContent line = true → m' = p ++ m)
    (pair : IndentedLine p line line') : dedentLine m' line' = dedentLine m line := by
  cases content : hasContent line with
  | true =>
    rw [IndentedLine, if_pos content] at pair
    rw [pair, longer content, dedentLine, dedentLine, hasContent_append indent, if_pos content, if_pos content,
      List.length_append, ← List.drop_drop, List.drop_left]
  | false =>
    rw [IndentedLine, if_neg (by simp [content])] at pair
    rw [dedentLine, dedentLine, if_neg (by simp [hasContent_eq_false_iff.mpr pair]), if_neg (by simp [content])]

end Indenting

/-- A text that is indented comes to the same when it is dedented. -/
theorem dedent_of_indented (indented : Indented p text text') : dedent text' = dedent text := by
  obtain ⟨indent, pairs⟩ := indented
  have longer : ∀ line ∈ lines text, hasContent line = true →
      margin (lines text') = p ++ margin (lines text) :=
    fun line member content => margin_of_indented indent pairs ⟨line, member, content⟩
  have line_by_line := (List.forall₂_and_left _ _).mpr ⟨longer, pairs⟩
  have same : (lines text).map (dedentLine (margin (lines text))) =
      (lines text').map (dedentLine (margin (lines text'))) := by
    rw [← List.forall₂_eq_eq_eq, List.forall₂_map_left_iff, List.forall₂_map_right_iff]
    exact line_by_line.imp fun line line' pair => (dedentLine_of_indented indent pair.1 pair.2).symm
  rw [dedent, dedent, same]

/-! ### Several fragments -/

/-- Is the fragment more than blanks? -/
def holdsSomething (form : String) : Bool := !Text.allBlank form.toList

/-- The fragments that hold something are tidied, and joined. -/
theorem joinForms_eq (forms : List String) :
    joinForms forms =
      String.ofList (unlines ((forms.filter holdsSomething).map fun form => tidy form.toList)) := by
  rw [joinForms, joinFragments, tidied, List.filter_map, List.map_map]
  rfl

/-- The indentation that a fragment has as a whole does not matter, one for each fragment: whatever spaces and
tabs are put before all of its lines with content, and whatever spaces and tabs its other lines hold, the source
text is the same. It is made of the fragments that are not blank, each of them without its margin. -/
theorem indentation_of_fragments_is_relative (forms : List String) :
    (∀ forms', List.Forall₂ (fun form form' : String => ∃ p, Indented p form.toList form'.toList) forms forms' →
      joinForms forms' = joinForms forms) ∧
    ∃ dedented : List (List Char),
      List.Forall₂ (fun form d => ∃ m, IsDedented m (String.toList form) d) (forms.filter holdsSomething) dedented ∧
      joinForms forms = String.ofList (unlines (dedented.map Text.strip)) := by
  constructor
  · intro forms' pairs
    rw [joinForms_eq, joinForms_eq]
    congr 2
    induction pairs with
    | nil => rfl
    | @cons form form' forms forms' pair _ ih =>
      obtain ⟨p, indented⟩ := pair
      have same : holdsSomething form' = holdsSomething form := by
        rw [holdsSomething, holdsSomething, ← allBlank_dedent, dedent_of_indented indented, allBlank_dedent]
      rw [List.filter_cons, List.filter_cons, same]
      split
      · rw [List.map_cons, List.map_cons, ih, tidy, tidy, dedent_of_indented indented]
      · exact ih
  · refine ⟨(forms.filter holdsSomething).map fun form => dedent form.toList, ?_, ?_⟩
    · rw [List.forall₂_map_right_iff, List.forall₂_same]
      intro form member
      have notBlank : Text.allBlank form.toList = false := by
        simpa [holdsSomething] using (List.mem_filter.mp member).2
      exact ⟨_, isDedented_dedent notBlank⟩
    · rw [joinForms_eq, List.map_map]
      rfl

/-- A fragment with mixed indentation, a carriage return and a line without content, and a blank one, both as they
are and as they stand further to the right. -/
theorem indentation_of_fragments_is_relative_mixed :
    joinForms [" \t\t a\r\n\n \t\t  b", "\t\t\t"] = joinForms ["\t a\r\n \t\n\t  b", " \t"] ∧
      joinForms ["\t a\r\n \t\n\t  b", " \t"] = "a\r\n\n b" := by
  have first : Indented [' ', '\t'] "\t a\r\n \t\n\t  b".toList " \t\t a\r\n\n \t\t  b".toList :=
    ⟨List.all_eq_true.mp rfl, .cons (by decide) (.cons (by decide) (.cons (by decide) .nil))⟩
  have second : Indented [] " \t".toList "\t\t\t".toList := ⟨nofun, .cons (by decide) .nil⟩
  refine ⟨(indentation_of_fragments_is_relative _).1 _ (.cons ⟨_, first⟩ (.cons ⟨_, second⟩ .nil)), ?_⟩
  decide

end HostBridge.Source
