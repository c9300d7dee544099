import HostBridge.Config.BridgeConfig
import HostBridge.Source.Fragments

/-!
# Splitting at a character, and joining with it

The lines of a source text and the entries of a class path are split alike, at one character. Splitting there
and joining with it undo each other, and a text that is put together at such a character is split part by part.
-/

namespace HostBridge

namespace Text

/-- Texts are joined as lists are. -/
theorem join_eq_intercalate (separator : List Char) (texts : List (List Char)) :
    join separator texts = separator.intercalate texts := by
  induction texts with
  | nil => rfl
  | cons text rest ih =>
    cases rest with
    | nil => exact List.intercalate_singleton.symm
    | cons next rest => rw [join, ih, List.intercalate_cons_cons]; simp

end Text

namespace Config

variable {separator : Char}

/-- Texts are split as lists are. -/
theorem splitAt_eq_splitOn (separator : Char) (text : List Char) :
    splitAt separator text = text.splitOn separator := by
  induction text with
  | nil => rfl
  | cons c rest ih =>
    rw [splitAt, List.splitOn_cons_eq_if_modifyHead, ih]
    by_cases here : c = separator
    · simp [here]
    · obtain ⟨piece, others, split⟩ := List.exists_cons_of_ne_nil (List.splitOn_ne_nil separator rest)
      simp [here, split]

/-- What stands before a separator is split apart from what stands after it. -/
theorem splitAt_append_cons (separator : Char) (before after : List Char) :
    splitAt separator (before ++ separator :: after) = splitAt separator before ++ splitAt separator after := by
  simp only [splitAt_eq_splitOn, List.splitOn_append_cons_self]

/-- Pieces without the separator come back when they have been joined with it. -/
theorem splitAt_join {pieces : List (List Char)} (apart : ∀ piece ∈ pieces, separator ∉ piece)
    (nonempty : pieces ≠ []) : splitAt separator (Text.join [separator] pieces) = pieces := by
  rw [splitAt_eq_splitOn, Text.join_eq_intercalate, List.splitOn_intercalate separator apart nonempty]

private theorem join_splitAt (separator : Char) (text : List Char) :
    Text.join [separator] (splitAt separator text) = text := by
  rw [splitAt_eq_splitOn, Text.join_eq_intercalate, List.intercalate_splitOn]

/-- No piece holds the separator. -/
theorem not_mem_of_mem_splitAt {text piece : List Char} (member : piece ∈ splitAt separator text) :
    separator ∉ piece := by
  induction text generalizing piece with
  | nil =>
    cases List.mem_singleton.mp member
    exact List.not_mem_nil
  | cons c rest ih =>
    rw [splitAt] at member
    split at member
    next here =>
      rcases List.mem_cons.mp member with rfl | later
      · exact List.not_mem_nil
      · exact ih later
    next other =>
      split at member
      next split =>
        cases List.mem_singleton.mp member
        simpa using Ne.symm other
      next first others split =>
        rcases List.mem_cons.mp member with rfl | later
        · have clean : separator ∉ first := ih (by rw [split]; exact List.mem_cons_self)
          simp [clean, Ne.symm other]
        · exact ih (by rw [split]; exact List.mem_cons_of_mem _ later)

end Config

namespace Source

/-- Lines are the pieces between line feeds. -/
theorem lines_eq_splitAt (text : List Char) : lines text = Config.splitAt '\n' text := by
  induction text with
  | nil => rfl
  | cons c rest ih =>
    cases pieces : Config.splitAt '\n' rest with
    | nil => simp only [lines, Config.splitAt, ih, pieces]
    | cons piece others => simp only [lines, Config.splitAt, ih, pieces]

/-- Lines without line feeds come back when they have been put together. -/
theorem lines_unlines {ls : List (List Char)} (apart : ∀ line ∈ ls, '\n' ∉ line) (nonempty : ls ≠ []) :
    lines (unlines ls) = ls := by
  rw [lines_eq_splitAt, unlines, Config.splitAt_join apart nonempty]

/-- Putting the lines of a text together gives the text back. -/
theorem unlines_lines (text : List Char) : unlines (lines text) = text := by
  rw [lines_eq_splitAt, unlines, Config.join_splitAt]

end Source

end HostBridge
