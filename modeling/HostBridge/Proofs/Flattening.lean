import Mathlib.Data.List.TakeWhile
import HostBridge.Proofs.Dedenting
import HostBridge.Proofs.Margins

/-!
# Joining what has been joined

A fragment that has been tidied is tidy: it begins and ends with something else than blanks, and none of its lines
holds spaces and tabs only. Such a fragment is left as it is, and so are several of them one below the other. So
fragments may be joined group by group, and the groups then: that comes to the same as joining them all at once.
-/

namespace HostBridge

namespace Text

variable {cs : List Char}

/-! ### Joining -/

private theorem join_append (separator : List Char) {first second : List (List Char)} (some_first : first ≠ [])
    (some_second : second ≠ []) :
    join separator (first ++ second) = join separator first ++ separator ++ join separator second := by
  induction first with
  | nil => exact (some_first rfl).elim
  | cons text rest ih =>
    cases rest with
    | nil =>
      obtain ⟨next, more, rfl⟩ := List.exists_cons_of_ne_nil some_second
      rfl
    | cons next rest =>
      have apart (others : List (List Char)) :
          join separator (text :: next :: others) = text ++ separator ++ join separator (next :: others) := rfl
      have goesOn := ih (List.cons_ne_nil _ _)
      rw [List.cons_append, List.cons_append, apart, apart, ← List.cons_append, goesOn]
      simp only [List.append_assoc]

/-- Joining groups of texts, and then what they come to, is joining all of the texts; groups without texts do not
count. -/
theorem join_map_join (separator : List Char) (groups : List (List (List Char))) :
    join separator ((groups.filter fun group => !group.isEmpty).map (join separator)) =
      join separator groups.flatten := by
  induction groups with
  | nil => rfl
  | cons group groups ih =>
    by_cases empty : group = []
    · simpa [empty] using ih
    · rw [List.filter_cons_of_pos (by simpa using empty), List.map_cons, List.flatten_cons]
      by_cases last : groups.flatten = []
      · have none : groups.filter (fun group => !group.isEmpty) = [] := by
          rw [List.filter_eq_nil_iff]
          intro other member
          simpa using List.flatten_eq_nil_iff.mp last other member
        rw [none, last, List.append_nil]
        rfl
      · have more : (groups.filter fun group => !group.isEmpty).map (join separator) ≠ [] := by
          intro none
          have all := List.filter_eq_nil_iff.mp (List.map_eq_nil_iff.mp none)
          exact last (List.flatten_eq_nil_iff.mpr fun other member => by simpa using all other member)
        rw [join_append separator empty last, ← ih, ← List.singleton_append,
          join_append separator (List.cons_ne_nil _ _) more]
        rfl

/-! ### Stripping -/

private theorem strip_isInfix (cs : List Char) : strip cs <:+: cs := by
  have before : cs.dropWhile isBlank <:+ cs := List.dropWhile_suffix _
  have after : strip cs <+: cs.dropWhile isBlank := by
    rw [← List.reverse_suffix, strip, trimEnd, List.reverse_reverse]
    exact List.dropWhile_suffix _
  exact after.isInfix.trans before.isInfix

private theorem head?_dropWhile_isBlank (notBlank : allBlank cs = false) :
    ∃ c ∈ (cs.dropWhile isBlank).head?, isBlank c = false := by
  cases left : cs.dropWhile isBlank with
  | nil =>
    have blank : allBlank cs = true := List.all_eq_true.mpr (List.dropWhile_eq_nil_iff.mp left)
    rw [blank] at notBlank
    cases notBlank
  | cons c rest =>
    have first := List.head?_dropWhile_not isBlank cs
    rw [left] at first
    exact ⟨c, rfl, by simpa using first⟩

private theorem getLast?_trimEnd (notBlank : allBlank cs = false) : ∃ c ∈ (trimEnd cs).getLast?, isBlank c = false := by
  rw [trimEnd, List.getLast?_reverse]
  exact head?_dropWhile_isBlank (by rw [allBlank, List.all_reverse]; exact notBlank)

private theorem head?_trimEnd {c : Char} (first : c ∈ cs.head?) (notBlank : isBlank c = false) :
    c ∈ (trimEnd cs).head? := by
  obtain ⟨rest, rfl⟩ := List.head?_eq_some_iff.mp first
  rw [trimEnd, List.head?_reverse, List.reverse_cons, List.dropWhile_append]
  split
  · simp [notBlank]
  · simp

private theorem strip_ends (notBlank : allBlank cs = false) :
    (∃ c ∈ (strip cs).head?, isBlank c = false) ∧ ∃ c ∈ (strip cs).getLast?, isBlank c = false := by
  obtain ⟨c, first, other⟩ := head?_dropWhile_isBlank notBlank
  refine ⟨⟨c, head?_trimEnd first other, other⟩, getLast?_trimEnd ?_⟩
  obtain ⟨rest, split⟩ := List.head?_eq_some_iff.mp first
  simp [split, allBlank, other]

end Text

namespace Source

variable {a b text text' : List Char}

/-! ### Texts without blank lines -/

private theorem HasBlankLine.of_isInfix (has : HasBlankLine text) (part : text <:+: text') : HasBlankLine text' := by
  obtain ⟨before, blank, after, rfl, some_indent, indent⟩ := has
  obtain ⟨start, rest, rfl⟩ := part
  exact ⟨start ++ before, blank, after ++ rest, by simp, some_indent, indent⟩

private theorem HasBlankLine.exists_line (has : HasBlankLine text) :
    ∃ line ∈ lines text, line ≠ [] ∧ hasContent line = false := by
  obtain ⟨before, blank, after, rfl, some_indent, indent⟩ := has
  refine ⟨blank, ?_, some_indent, hasContent_eq_false_iff.mpr indent⟩
  have apart : '\n' ∉ blank := fun feed => ne_feed_of_isIndent (indent _ feed) rfl
  have alone : ∀ piece ∈ [blank], '\n' ∉ piece := by simpa using apart
  have single : Config.splitAt '\n' blank = [blank] := Config.splitAt_join alone (List.cons_ne_nil _ _)
  rw [lines_eq_splitAt, Config.splitAt_append_cons, Config.splitAt_append_cons, single]
  simp

private theorem not_hasBlankLine_dedent (text : List Char) : ¬ HasBlankLine (dedent text) := by
  intro has
  obtain ⟨line, member, some_indent, empty⟩ := has.exists_line
  rw [lines_dedent] at member
  obtain ⟨whole, inside, rfl⟩ := List.mem_map.mp member
  rw [hasContent_dedentLine inside] at empty
  exact some_indent (if_neg (by simp [empty]))

/-! ### Tidy texts -/

/-- A text that begins and ends with something else than blanks, and has no line of spaces and tabs. -/
structure IsTidy (text : List Char) : Prop where
  first : ∃ c ∈ text.head?, Text.isBlank c = false
  last : ∃ c ∈ text.getLast?, Text.isBlank c = false
  noBlankLine : ¬ HasBlankLine text

namespace IsTidy

private theorem tidy_eq (tidied : IsTidy text) : tidy text = text := by
  rw [tidy_eq_clear tidied.first tidied.last, clear_eq_iff.mpr tidied.noBlankLine]

private theorem allBlank_eq (tidied : IsTidy text) : Text.allBlank text = false := by
  obtain ⟨c, first, notBlank⟩ := tidied.first
  obtain ⟨rest, rfl⟩ := List.head?_eq_some_iff.mp first
  simp [Text.allBlank, notBlank]

private theorem append (above : IsTidy a) (below : IsTidy b) : IsTidy (a ++ '\n' :: b) := by
  obtain ⟨c, first, notBlank⟩ := below.first
  obtain ⟨rest, rfl⟩ := List.head?_eq_some_iff.mp first
  obtain ⟨d, last, notBlank'⟩ := above.last
  obtain ⟨init, rfl⟩ := List.getLast?_eq_some_iff.mp last
  obtain ⟨other, sameLine⟩ := content_of_not_blank notBlank
  obtain ⟨other', sameLine'⟩ := content_of_not_blank notBlank'
  refine ⟨?_, ?_, ?_⟩
  · obtain ⟨e, first', notBlank''⟩ := above.first
    exact ⟨e, by simp only [List.append_assoc, List.head?_append] at first' ⊢; simp_all, notBlank''⟩
  · obtain ⟨e, last', notBlank''⟩ := below.last
    exact ⟨e, by simp only [List.getLast?_append] at last' ⊢; simp_all, notBlank''⟩
  · rw [← clear_eq_iff]
    have upper := clear_eq_iff.mpr above.noBlankLine
    have lower := clear_eq_iff.mpr below.noBlankLine
    rw [clear_append_content other' sameLine'] at upper
    rw [clear_content other sameLine] at lower
    rw [List.append_assoc, List.singleton_append, clear_append_content other' sameLine', clear_feed,
      clear_content other sameLine, lower]
    simpa [clear] using upper

end IsTidy

private theorem isTidy_unlines {texts : List (List Char)} (each : ∀ text ∈ texts, IsTidy text)
    (some_text : texts ≠ []) :
    IsTidy (unlines texts) := by
  induction texts with
  | nil => exact (some_text rfl).elim
  | cons text rest ih =>
    obtain ⟨first, others⟩ := List.forall_mem_cons.mp each
    cases rest with
    | nil => exact first
    | cons next rest =>
      have below := ih others (List.cons_ne_nil _ _)
      have together : unlines (text :: next :: rest) = text ++ '\n' :: unlines (next :: rest) := by
        simp [unlines, Text.join]
      rw [together]
      exact first.append below

private theorem isTidy_tidy (notBlank : Text.allBlank text = false) : IsTidy (tidy text) := by
  obtain ⟨first, last⟩ := Text.strip_ends ((allBlank_dedent text).trans notBlank)
  exact ⟨first, last, fun has => not_hasBlankLine_dedent text (has.of_isInfix (Text.strip_isInfix _))⟩

/-! ### Joining what was joined -/

variable {fragments : List (List Char)}

private theorem isTidy_of_mem_tidied : ∀ text ∈ tidied fragments, IsTidy text := by
  intro text member
  obtain ⟨fragment, inside, rfl⟩ := List.mem_map.mp member
  exact isTidy_tidy (by simpa using (List.mem_filter.mp inside).2)

private theorem tidied_cons (fragment : List Char) (rest : List (List Char)) :
    tidied (fragment :: rest) =
      if Text.allBlank fragment then tidied rest else tidy fragment :: tidied rest := by
  cases blank : Text.allBlank fragment <;> simp [tidied, blank]

private theorem tidied_append (first second : List (List Char)) :
    tidied (first ++ second) = tidied first ++ tidied second := by
  rw [tidied, List.filter_append, List.map_append, tidied, tidied]

/-- Nothing is left just of blank fragments. -/
theorem tidied_eq_nil_iff : tidied fragments = [] ↔ ∀ fragment ∈ fragments, Text.allBlank fragment = true := by
  simp [tidied, List.filter_eq_nil_iff]

/-- Joined fragments are blank just if nothing is left of them, and then they are empty. -/
theorem allBlank_joinFragments (fragments : List (List Char)) :
    Text.allBlank (joinFragments fragments) = (tidied fragments).isEmpty := by
  by_cases none : tidied fragments = []
  · rw [joinFragments, none]
    rfl
  · rw [joinFragments, (isTidy_unlines isTidy_of_mem_tidied none).allBlank_eq]
    simpa using none

private theorem tidy_joinFragments (some_text : tidied fragments ≠ []) :
    tidy (joinFragments fragments) = joinFragments fragments :=
  (isTidy_unlines isTidy_of_mem_tidied some_text).tidy_eq

private theorem tidied_map_joinFragments (groups : List (List (List Char))) :
    tidied (groups.map joinFragments) = ((groups.map tidied).filter fun left => !left.isEmpty).map unlines := by
  induction groups with
  | nil => rfl
  | cons group groups ih =>
    rw [List.map_cons, tidied_cons, allBlank_joinFragments, ih, List.map_cons, List.filter_cons]
    by_cases none : tidied group = []
    · simp [none]
    · have left : (tidied group).isEmpty = false := by simpa using none
      rw [tidy_joinFragments none]
      simp [left, joinFragments]

/-- Fragments may be joined group by group first. -/
theorem joinFragments_map_joinFragments (groups : List (List (List Char))) :
    joinFragments (groups.map joinFragments) = joinFragments groups.flatten := by
  have parts : (groups.map tidied).flatten = tidied groups.flatten := by
    induction groups with
    | nil => rfl
    | cons group groups ih => rw [List.map_cons, List.flatten_cons, List.flatten_cons, ih, tidied_append]
  rw [joinFragments, tidied_map_joinFragments, joinFragments, ← parts]
  exact Text.join_map_join ['\n'] (groups.map tidied)

/-- Fragments that are joined group by group, and the groups then, come to what they come to all at once. So what
has been joined is joined to itself, blank fragments do not count wherever they stand, and nothing comes of the
fragments just if all of them are blank. -/
theorem joining_forms_flattens :
    (∀ groups : List (List String), joinForms (groups.map joinForms) = joinForms groups.flatten) ∧
    (∀ forms, joinForms [joinForms forms] = joinForms forms) ∧
    (∀ forms forms', forms.filter holdsSomething = forms'.filter holdsSomething →
      joinForms forms = joinForms forms') ∧
    ∀ forms, joinForms forms = "" ↔ ∀ form ∈ forms, Text.allBlank form.toList = true := by
  have flattens (groups : List (List String)) :
      joinForms (groups.map joinForms) = joinForms groups.flatten := by
    have parts : (groups.map joinForms).map String.toList =
        (groups.map (List.map String.toList)).map joinFragments := by
      simp [joinForms, Function.comp_def]
    rw [joinForms, parts, joinFragments_map_joinFragments, ← List.map_flatten, joinForms]
  refine ⟨flattens, fun forms => ?_, fun forms forms' same => ?_, fun forms => ?_⟩
  · simpa using flattens [forms]
  · rw [joinForms_eq, joinForms_eq, same]
  · have empty : joinForms forms = "" ↔ joinFragments (forms.map String.toList) = [] := by
      rw [joinForms, ← String.toList_inj, String.toList_ofList, String.toList_empty]
    have blank := allBlank_joinFragments (forms.map String.toList)
    rw [empty, ← List.forall_mem_map (f := String.toList) (P := fun text => Text.allBlank text = true),
      ← tidied_eq_nil_iff]
    constructor
    · intro nothing
      rw [nothing] at blank
      exact List.isEmpty_iff.mp blank.symm
    · intro none
      rw [joinFragments, none]
      rfl

/-- Groups with a tab on a line of its own, a wide space at an end, and fragments of blanks only; the blank ones may
as well be left out. -/
theorem joining_forms_flattens_blanks :
    joinForms ([["  (a\r\n\t\n   b)\u2003", " \u00a0"], ["\x0c"], ["\tc"]].map joinForms) =
        joinForms ["  (a\r\n\t\n   b)\u2003", " \u00a0", "\x0c", "\tc"] ∧
      joinForms ["  (a\r\n\t\n   b)\u2003", " \u00a0", "\x0c", "\tc"] =
        joinForms ["", "  (a\r\n\t\n   b)\u2003", "\tc"] ∧
      joinForms ["", "  (a\r\n\t\n   b)\u2003", "\tc"] = "(a\r\n\n b)\nc" := by
  obtain ⟨flattens, -, alike, -⟩ := joining_forms_flattens
  exact ⟨flattens _, alike _ _ (by decide), by decide⟩

end Source

end HostBridge
