import HostBridge.Proofs.ColouredFields
import HostBridge.Proofs.LineLayouts

/-!
# Colour is transparent

A record is laid out in colour as it is in black and white, but that the name of its level stands in colour where
the template asks for it, and every colour ends right after the name. So where no escape characters come from
elsewhere, deleting the sequences of the terminal gives the text in black and white.
-/

namespace HostBridge.Logging.LineFormat

open Text.Template (pieces)

/-! ### Laying out a record -/

/-- The time that a template asks for. -/
def timeOf (f : LineFormat) (r : Record) : Except Fault (Option String) :=
  if f.usesTime then (f.timeText r).map some else pure none

/-- The fields that a template is filled with. -/
def shownFields (f : LineFormat) (r : Record) : Except Fault (List (String × Value)) := do
  let levelInColour ← colourLevel f.coloured r.levelName
  let message ← r.message
  let time? ← f.timeOf r
  return fields r message levelInColour time?

/-- The text of what was thrown, unless the record has it already. -/
def thrownOf (r : Record) : Except Fault Value :=
  if hasThrown r && !(r.other "exc_text").truthy then thrownText r else pure (r.other "exc_text")

/-- A text with what there is to follow on the next line. -/
def withMore (text : String) (v : Value) : Except Fault String :=
  if v.truthy then withNextLine text v else pure text

/-- The line of a record from its fields, with what was thrown and the stack. -/
def layOut (f : LineFormat) (r : Record) (entries : List (String × Value)) : Except Fault String := do
  let line ← fillFields f.template entries
  let line ← withMore line (← thrownOf r)
  withMore line (r.other "stack_info")

/-- A format finds the fields first. -/
theorem format_eq (f : LineFormat) (r : Record) : f.format r = f.shownFields r >>= f.layOut r := by
  unfold format shownFields timeOf
  cases colourLevel f.coloured r.levelName with
  | error fault => rfl
  | ok level =>
    cases r.message with
    | error fault => rfl
    | ok message =>
      have rest (time? : Option String) : (do
          let line ← fillFields f.template (fields r message level time?)
          let thrown ← if hasThrown r && !(r.other "exc_text").truthy then thrownText r
            else pure (r.other "exc_text")
          let line ← if thrown.truthy then withNextLine line thrown else pure line
          let stack := r.other "stack_info"
          if stack.truthy then withNextLine line stack else return line) =
          f.layOut r (fields r message level time?) := by
        unfold layOut thrownOf withMore
        cases fillFields f.template (fields r message level time?) with
        | error fault => rfl
        | ok line =>
          have more (thrown : Value) : (do
              let line ← if thrown.truthy then withNextLine line thrown else pure line
              let stack := r.other "stack_info"
              if stack.truthy then withNextLine line stack else return line) =
              (if thrown.truthy then withNextLine line thrown else pure line) >>= fun line =>
                if (r.other "stack_info").truthy then withNextLine line (r.other "stack_info") else pure line := by
            cases thrown.truthy with
            | false => rfl
            | true => cases withNextLine line thrown <;> rfl
          cases (hasThrown r && !(r.other "exc_text").truthy) with
          | false => exact more _
          | true =>
            cases thrownText r with
            | error fault => rfl
            | ok thrown => exact more thrown
      cases f.usesTime with
      | false => exact rest none
      | true =>
        cases f.timeText r with
        | error fault => rfl
        | ok time => exact rest (some time)

section Layout

variable {levelName : Value} {r : Record} {template : String} {datePattern? : Option String}

private theorem exists_colourLevel (named : levelName.hashable = true) :
    ∃ v, colourLevel true levelName = .ok v ∧
      Alike (fun text coloured => InColour levelName text.toList coloured.toList) levelName.shown v.shown := by
  have same (v : Value) : Alike (fun text coloured => InColour levelName text.toList coloured.toList)
      v.shown v.shown := .refl _ fun _ _ => .refl _
  unfold colourLevel
  rw [if_pos rfl]
  split
  next s isText =>
    cases found : colours.lookup s with
    | none => exact ⟨levelName, rfl, same _⟩
    | some colour =>
      refine ⟨.text (colour ++ s ++ colourEnd), rfl, ?_⟩
      have inColour : InColour levelName (s.toList ++ []) (colour.toList ++ s.toList ++ colourEnd.toList ++ []) :=
        .level isText found .done
      rw [List.append_nil, List.append_nil, ← String.toList_append, ← String.toList_append] at inColour
      rw [Value.shown_of_text isText]
      exact .came inColour
  next => exact ⟨levelName, if_pos named, same _⟩

private theorem recoloured_fields (r : Record) (message : String) (time? : Option String) {v : Value}
    (inColour : Alike (fun text coloured => InColour r.levelName text.toList coloured.toList) r.levelName.shown
      v.shown) :
    Recoloured r.levelName (fields r message r.levelName time?) (fields r message v time?) where
  others name other := by
    simp [fields, List.lookup_append, List.lookup_cons, beq_eq_false_iff_ne.mpr other]
  level := rfl
  inColour := ⟨v, rfl, inColour⟩

/-- With colours and without, the fields differ in the level in colour only. -/
theorem alike_shownFields (named : r.levelName.hashable = true) (template : String) (datePattern? : Option String) :
    Alike (Recoloured r.levelName) (shownFields ⟨template, datePattern?, false⟩ r)
      (shownFields ⟨template, datePattern?, true⟩ r) := by
  obtain ⟨v, level, inColour⟩ := exists_colourLevel named
  have sameTime : timeOf ⟨template, datePattern?, true⟩ r = timeOf ⟨template, datePattern?, false⟩ r := rfl
  unfold shownFields
  rw [level, sameTime]
  change Alike _ (r.message >>= _) (r.message >>= _)
  refine Alike.bind (R := Eq) (.refl r.message fun _ _ => rfl) ?_
  rintro message _ rfl
  refine Alike.bind (R := Eq) (.refl _ fun _ _ => rfl) ?_
  rintro time? _ rfl
  exact .came (recoloured_fields r message time? inColour)

private theorem exists_of_shownFields {f : LineFormat} {entries : List (String × Value)}
    (shown : f.shownFields r = .ok entries) :
    ∃ message level time?, entries = fields r message level time? := by
  obtain ⟨level, -, shown⟩ := Except.exists_of_bind_eq_ok shown
  obtain ⟨message, -, shown⟩ := Except.exists_of_bind_eq_ok shown
  obtain ⟨time?, -, shown⟩ := Except.exists_of_bind_eq_ok shown
  cases shown
  exact ⟨message, level, time?, rfl⟩

private theorem lookup_other {f : LineFormat} {entries : List (String × Value)} (shown : f.shownFields r = .ok entries)
    {name : String} (own : name = "exc_text" ∨ name = "stack_info") : entries.lookup name = r.others.lookup name := by
  obtain ⟨message, level, time?, rfl⟩ := exists_of_shownFields shown
  rcases own with rfl | rfl <;> cases time? <;> rfl

/-- The name of the level is the record's own. -/
theorem lookup_levelname {f : LineFormat} {entries : List (String × Value)} (shown : f.shownFields r = .ok entries) :
    entries.lookup "levelname" = some r.levelName := by
  obtain ⟨message, level, time?, rfl⟩ := exists_of_shownFields shown
  cases time? <;> rfl

private theorem alike_withMore {text coloured : String} (inColour : InColour levelName text.toList coloured.toList)
    (next : Value) :
    Alike (fun text coloured => InColour levelName text.toList coloured.toList) (withMore text next)
      (withMore coloured next) := by
  have ended := inColour.getLast?_eq_newline_iff
  unfold withMore
  split
  · unfold withNextLine
    split
    · refine .came ?_
      by_cases newline : text.toList.getLast? = some '\n'
      · rw [if_pos newline, if_pos (ended.mp newline), String.toList_append, String.toList_append]
        exact inColour.append (.refl _)
      · rw [if_neg newline, if_neg (newline ∘ ended.mpr)]
        simp only [String.toList_append, List.append_assoc]
        exact inColour.append (.refl _)
    · exact .failed _
  · exact .came inColour

/-- With colours and without, records are laid out in the same way but for the level in colour. -/
theorem alike_layOut {entries entries' : List (String × Value)}
    (recoloured : Recoloured r.levelName entries entries')
    (plain : ∀ piece ∈ pieces template.toList, ShowsPlainly piece) :
    Alike (fun text coloured => InColour r.levelName text.toList coloured.toList)
      (layOut ⟨template, datePattern?, false⟩ r entries) (layOut ⟨template, datePattern?, true⟩ r entries') := by
  refine (alike_fillFields recoloured plain).bind fun text coloured inColour => ?_
  refine Alike.bind (R := Eq) (.refl (thrownOf r) fun _ _ => rfl) ?_
  rintro thrown _ rfl
  exact (alike_withMore inColour thrown).bind fun text coloured inColour => alike_withMore inColour _

private theorem escape_not_mem_withMore {text text' : String} {next : Value} (clean : escape ∉ text.toList)
    (free : ∀ s, next.plain = .text s → escape ∉ s.toList) (came : withMore text next = .ok text') :
    escape ∉ text'.toList := by
  unfold withMore at came
  split at came
  · unfold withNextLine at came
    split at came
    next s isText =>
      have added := free s isText
      cases came
      split
      · rw [String.toList_append, List.mem_append, not_or]
        exact ⟨clean, added⟩
      · rw [String.toList_append, String.toList_append, List.mem_append, List.mem_append, not_or, not_or]
        exact ⟨⟨clean, by decide⟩, added⟩
    next => cases came
  · cases came
    exact clean

private theorem eq_of_thrownText {thrown : Value} (came : thrownText r = .ok thrown) :
    (∃ trace, r.trace? = some trace ∧ thrown = .text trace) ∨ thrown = .text "NoneType: None" := by
  unfold thrownText at came
  split at came
  case h_1 trace recorded =>
    cases came
    exact .inl ⟨trace, recorded, rfl⟩
  case h_2 | h_3 =>
    split at came <;> cases came
    exact .inr rfl
  case h_4 => cases came

/-- The line has no escape characters if none come from the template or the fields. -/
theorem escape_not_mem_layOut {f : LineFormat} {entries : List (String × Value)} {text : String}
    (shown : f.shownFields r = .ok entries) (free : EscapeFree f.template entries)
    (traceFree : ∀ trace, r.trace? = some trace → escape ∉ trace.toList)
    (plain : ∀ piece ∈ pieces f.template.toList, ShowsPlainly piece) (came : f.layOut r entries = .ok text) :
    escape ∉ text.toList := by
  have other {name : String} (own : name = "exc_text" ∨ name = "stack_info") (s : String)
      (there : (r.other name).plain = .text s) : escape ∉ s.toList := by
    unfold Record.other at there
    cases found : r.others.lookup name with
    | none =>
      rw [found] at there
      cases there
    | some v =>
      rw [found, Option.getD_some] at there
      rw [← Value.display_of_text there View.blank]
      exact (free.texts name _ ((lookup_other shown own).trans found)).1
  obtain ⟨line, filled, more⟩ := Except.exists_of_bind_eq_ok came
  obtain ⟨thrown, isThrown, more⟩ := Except.exists_of_bind_eq_ok more
  obtain ⟨line', followed, ended⟩ := Except.exists_of_bind_eq_ok more
  have thrownFree (s : String) (there : thrown.plain = .text s) : escape ∉ s.toList := by
    unfold thrownOf at isThrown
    split at isThrown
    · rcases eq_of_thrownText isThrown with ⟨trace, recorded, rfl⟩ | rfl
      · cases there
        exact traceFree s recorded
      · cases there
        decide
    · cases isThrown
      exact other (.inl rfl) s there
  have first := escape_not_mem_withMore (escape_not_mem_fillFields free plain filled) thrownFree followed
  exact escape_not_mem_withMore first (other (.inr rfl)) ended

end Layout

/-- The second text is the first one but for colours: the first one has no escape characters, the second one has
the name of the level in its colour in places, and without the sequences of the terminal it is the first one. -/
structure Transparent (levelName : Value) (text coloured : String) : Prop where
  clean : escape ∉ text.toList
  inColour : InColour levelName text.toList coloured.toList
  dropped : String.ofList (dropSequences 0 coloured.toList) = text

/-- Colour is transparent. Let a template show the level in colour by plain conversions only, and let no escape
characters come from it, the fields or the text of what was thrown. Whatever the pattern for dates and whatever
the record, a format with colours fails with the fault of the format without, or both come to texts that differ
in the colours of the level only. Each colour ends right after the name of the level. The name of the level
itself is shown as it is either way. -/
theorem colour_is_transparent (template : String) (datePattern? : Option String) (r : Record)
    (named : r.levelName.hashable = true)
    (plain : ∀ piece ∈ pieces (filled template).toList, ShowsPlainly piece)
    (free : ∀ entries, shownFields ⟨filled template, datePattern?, false⟩ r = .ok entries →
      EscapeFree (filled template) entries)
    (traceFree : ∀ trace, r.trace? = some trace → escape ∉ trace.toList) :
    Alike (Transparent r.levelName) (make template datePattern? false >>= fun f => f.format r)
        (make template datePattern? true >>= fun f => f.format r) ∧
      ∀ (f : LineFormat) entries, f.shownFields r = .ok entries → entries.lookup "levelname" = some r.levelName := by
  refine ⟨?_, fun f entries shown => lookup_levelname shown⟩
  have made (coloured : Bool) : make template datePattern? coloured =
      if namesField (filled template).toList then .ok ⟨filled template, datePattern?, coloured⟩
      else .error (.standard .value ("Invalid format '" ++ filled template ++ "' for '%' style")) := rfl
  rw [made, made]
  split
  next =>
    change Alike _ (format ⟨filled template, datePattern?, false⟩ r) (format ⟨filled template, datePattern?, true⟩ r)
    rw [format_eq, format_eq]
    refine ((alike_shownFields named (filled template) datePattern?).mono (S := fun entries entries' =>
      shownFields ⟨filled template, datePattern?, false⟩ r = .ok entries ∧ Recoloured r.levelName entries entries')
      fun _ _ shown recoloured => ⟨shown, recoloured⟩).bind ?_
    rintro entries entries' ⟨shown, recoloured⟩
    refine (alike_layOut recoloured plain).mono fun text coloured came inColour => ?_
    have clean := escape_not_mem_layOut shown (free entries shown) traceFree plain came
    exact ⟨clean, inColour, by rw [inColour.dropSequences clean, String.ofList_toList]⟩
  next => exact .failed _

/-- An error in one of two parts. -/
def partError : Record :=
  { logger := .text "cljbridge.demo", levelName := .text "ERROR", level := .int 40
    template := .text "%d of %s", arguments := .tuple [.int 1, .text "two"], thread := .text "MainThread"
    created := .int 0, milliseconds := .int 0, others := Record.unknown }

/-- A template that shows the level in colour twice, with other conversions in between. -/
def twiceColoured : String := "%(levelname_color)s|%(levelno)5d%% %(message)s %(levelname_color)s"

/-- Does a piece show a value as the character that it is the code of? -/
def showsCode : Text.Template.Piece → Bool
  | .literal _ => false
  | .conversion spec => spec.letter?.map Prod.fst == some 'c'

/-- No escape characters come from the template or from the fields of the error. -/
theorem escapeFree_partError {entries : List (String × Value)}
    (shown : shownFields ⟨twiceColoured, none, false⟩ partError = .ok entries) : EscapeFree twiceColoured entries := by
  have isFilled : entries = fields partError "1 of two" (.text "ERROR") none := by
    obtain ⟨level, isLevel, shown⟩ := Except.exists_of_bind_eq_ok shown
    obtain ⟨message, isMessage, shown⟩ := Except.exists_of_bind_eq_ok shown
    obtain ⟨time?, isTime, shown⟩ := Except.exists_of_bind_eq_ok shown
    have filled : partError.message.toOption = some "1 of two" := by decide +kernel
    have timeless : usesTime ⟨twiceColoured, none, false⟩ = false := by decide +kernel
    rw [isMessage] at filled
    rw [timeOf, timeless] at isTime
    cases isLevel
    cases filled
    cases isTime
    cases shown
    rfl
  have clean : ∀ e ∈ entries, escape ∉ (e.2.display View.blank).toList ∧ escape ∉ (e.2.literal View.blank).toList := by
    rw [isFilled]
    decide +kernel
  have noCode : ∀ piece ∈ pieces twiceColoured.toList, showsCode piece = false := by decide +kernel
  refine ⟨by decide +kernel, fun name v found => ?_, fun spec index name v there _ letter _ => ?_⟩
  · obtain ⟨before, after, split, -⟩ := List.lookup_eq_some_iff.mp found
    exact clean (name, v) (by simp [split])
  · have other := noCode _ there
    rw [showsCode, letter] at other
    cases other

/-- The error is laid out with the name of its level in red, and otherwise as without colours. -/
theorem colour_is_transparent_error :
    ∃ text coloured, (make twiceColoured none false >>= fun f => f.format partError) = .ok text ∧
      (make twiceColoured none true >>= fun f => f.format partError) = .ok coloured ∧
      Transparent partError.levelName text coloured ∧
      text = "ERROR|   40% 1 of two ERROR" ∧
      coloured = "\x1b[31mERROR\x1b[0m|   40% 1 of two \x1b[31mERROR\x1b[0m" := by
  have plain : ∀ piece ∈ pieces (filled twiceColoured).toList, ShowsPlainly piece := by decide +kernel
  have isText : (make twiceColoured none false >>= fun f => f.format partError).toOption =
      some "ERROR|   40% 1 of two ERROR" := by decide +kernel
  have isColoured : (make twiceColoured none true >>= fun f => f.format partError).toOption =
      some "\x1b[31mERROR\x1b[0m|   40% 1 of two \x1b[31mERROR\x1b[0m" := by decide +kernel
  have alike := (colour_is_transparent twiceColoured none partError rfl plain
    (fun entries shown => escapeFree_partError shown) fun _ absurd => nomatch absurd).1
  generalize (make twiceColoured none false >>= fun f => f.format partError) = x at alike isText ⊢
  generalize (make twiceColoured none true >>= fun f => f.format partError) = y at alike isColoured ⊢
  cases alike with
  | failed fault => cases isText
  | came transparent => exact ⟨_, _, rfl, rfl, transparent, Option.some.inj isText, Option.some.inj isColoured⟩

end HostBridge.Logging.LineFormat
