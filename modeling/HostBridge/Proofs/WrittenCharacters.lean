import HostBridge.Text.Template
import HostBridge.Proofs.Stateful

/-!
# The characters that conversions write

Numbers are written in visible characters. So a control character in the text of a conversion comes from the value:
it stands in one of the texts of the value, or the value is the code of that character.
-/

namespace HostBridge

namespace Value

private theorem eq_of_shown {v : Value} {s : String} (shown : v.shown = .ok s) : s = v.display View.blank := by
  unfold Value.shown at shown
  split at shown
  · cases shown
  · exact (Except.ok.inj shown).symm

private theorem eq_of_spelledOut {v : Value} {s : String} (spelled : v.spelledOut = .ok s) :
    s = v.literal View.blank := by
  unfold spelledOut at spelled
  split at spelled
  · cases spelled
  · exact (Except.ok.inj spelled).symm

end Value

/-- Not a control character. -/
def IsVisible (c : Char) : Prop := 0x20 ≤ c.toNat

instance : DecidablePred IsVisible := fun c => inferInstanceAs (Decidable (0x20 ≤ c.toNat))

private theorem isVisible_of_all {cs : List Char} (all : cs.all (IsVisible ·) = true) : ∀ c ∈ cs, IsVisible c :=
  fun c there => of_decide_eq_true (List.all_eq_true.mp all c there)

private theorem IsVisible.toUpper {c : Char} (visible : IsVisible c) : IsVisible c.toUpper := by
  unfold Char.toUpper
  split
  next small =>
    have least : (97 : Nat) ≤ c.val.toNat := small.1
    have greatest : c.val.toNat ≤ (122 : Nat) := small.2
    have shift : ('A'.val - 'a'.val : UInt32).toNat = 2 ^ 32 - 32 := by decide
    change 0x20 ≤ (c.val + ('A'.val - 'a'.val)).toNat
    rw [UInt32.toNat_add, shift]
    omega
  next => exact visible

namespace Number

/-! ### Digits -/

private theorem isVisible_digitChar (n : Nat) : IsVisible (Nat.digitChar n) := by
  have either {p : Prop} [Decidable p] {c d : Char} (first : IsVisible c) (second : IsVisible d) :
      IsVisible (if p then c else d) := by
    split
    · exact first
    · exact second
  unfold Nat.digitChar
  repeat' refine either (by decide) ?_
  decide

private theorem isVisible_toDigits {b : Nat} (base : 1 < b) (n : Nat) : ∀ c ∈ Nat.toDigits b n, IsVisible c := by
  induction n using Nat.strongRecOn with
  | ind n ih =>
    rw [Nat.toDigits_eq_if base]
    split
    · exact List.forall_mem_singleton.mpr (isVisible_digitChar n)
    · next large =>
      refine List.forall_mem_append.mpr ⟨?_, List.forall_mem_singleton.mpr (isVisible_digitChar _)⟩
      exact ih (n / b) (Nat.div_lt_self (by omega) base)

private theorem isVisible_zeros_toDigits {b : Nat} (base : 1 < b) (zeros n : Nat) :
    ∀ c ∈ List.replicate zeros '0' ++ Nat.toDigits b n, IsVisible c := by
  refine List.forall_mem_append.mpr ⟨fun c there => ?_, isVisible_toDigits base n⟩
  rw [List.eq_of_mem_replicate there]
  decide

namespace Binary64

variable {cs : List Char}

private theorem isVisible_withPlaces (units places : Nat) (keepPoint : Bool) :
    ∀ c ∈ withPlaces units places keepPoint, IsVisible c := by
  have digits := isVisible_zeros_toDigits (b := 10) (by decide) (places + 1 - (Nat.toDigits 10 units).length) units
  have point : IsVisible '.' := by decide
  unfold withPlaces
  split
  · split
    · exact List.forall_mem_append.mpr
        ⟨fun c there => digits c (List.mem_of_mem_take there), List.forall_mem_singleton.mpr point⟩
    · exact fun c there => digits c (List.mem_of_mem_take there)
  · exact List.forall_mem_append.mpr ⟨fun c there => digits c (List.mem_of_mem_take there),
      List.forall_mem_cons.mpr ⟨point, fun c there => digits c (List.mem_of_mem_drop there)⟩⟩

private theorem isVisible_exponentText (e : Int) : ∀ c ∈ exponentText e, IsVisible c := by
  refine List.forall_mem_cons.mpr ⟨by decide, List.forall_mem_cons.mpr ⟨?_, ?_⟩⟩
  · split <;> decide
  · exact isVisible_zeros_toDigits (by decide) _ _

private theorem mem_of_mem_dropPlaces {c : Char} (there : c ∈ dropPlaces cs) : c ∈ cs := by
  have shorter {c : Char} (there : c ∈ (cs.reverse.dropWhile (· == '0')).reverse) : c ∈ cs :=
    List.mem_reverse.mp ((List.dropWhile_sublist _).subset (List.mem_reverse.mp there))
  unfold dropPlaces at there
  split at there
  · dsimp only at there
    split at there
    · exact shorter (List.dropLast_subset _ there)
    · exact shorter there
  · exact there

private theorem isVisible_rounded (x : Binary64) (style : RoundedStyle) (count : Nat) (keepPoint : Bool) :
    ∀ c ∈ x.rounded style count keepPoint, IsVisible c := by
  have tidied (tidy : List Char → List Char) (tidies : tidy = id ∨ tidy = dropPlaces) (units places : Nat) :
      ∀ c ∈ tidy (withPlaces units places keepPoint), IsVisible c := by
    rcases tidies with rfl | rfl
    · exact isVisible_withPlaces units places keepPoint
    · exact fun c there => isVisible_withPlaces units places keepPoint c (mem_of_mem_dropPlaces there)
  have digits : ∀ c ∈ x.roundedDigits style count keepPoint, IsVisible c := by
    cases style with
    | fixed => exact isVisible_withPlaces _ _ _
    | scientific => exact List.forall_mem_append.mpr ⟨isVisible_withPlaces _ _ _, isVisible_exponentText _⟩
    | general =>
      have tidies : (if keepPoint then id else dropPlaces) = id ∨
          (if keepPoint then id else dropPlaces) = dropPlaces := by
        cases keepPoint
        · exact .inr rfl
        · exact .inl rfl
      unfold roundedDigits
      dsimp only
      split
      · exact tidied _ tidies _ _
      · exact List.forall_mem_append.mpr ⟨tidied _ tidies _ _, isVisible_exponentText _⟩
  unfold rounded
  split
  · exact isVisible_of_all (by decide)
  · refine List.forall_mem_append.mpr ⟨?_, ?_⟩
    · split <;> exact isVisible_of_all (by decide)
    · split
      · exact digits
      · exact isVisible_of_all (by decide)

end Binary64

end Number

namespace Text

private theorem isVisible_hexDigits (width n : Nat) : ∀ c ∈ hexDigits width n, IsVisible c :=
  Number.isVisible_zeros_toDigits (by decide) _ n

namespace Template

/-! ### Literal text -/

private theorem suffix_of_untilClosed {depth : Nat} {cs name rest : List Char}
    (closed : untilClosed depth cs = some (name, rest)) : rest <:+ cs := by
  induction cs generalizing depth name with
  | nil => cases closed
  | cons d cs ih =>
    have further {depth : Nat} (closed : ((untilClosed depth cs).map fun r => (d :: r.1, r.2)) = some (name, rest)) :
        rest <:+ d :: cs := by
      obtain ⟨r, found, same⟩ := Option.map_eq_some_iff.mp closed
      cases same
      exact (ih found).trans (List.suffix_cons d cs)
    unfold untilClosed at closed
    split at closed
    · split at closed
      · cases closed
        exact List.suffix_cons d rest
      · exact further closed
    · exact further closed

private theorem suffix_readKey (cs : List Char) : (readKey cs).2 <:+ cs := by
  unfold readKey
  split
  next rest =>
    split
    next closed => exact (suffix_of_untilClosed closed).trans (List.suffix_cons _ rest)
    next => exact List.nil_suffix
  next => exact List.suffix_refl _

private theorem suffix_readFlags (flags : Flags) (cs : List Char) : (readFlags flags cs).2 <:+ cs := by
  fun_induction readFlags flags cs with
  | case6 => exact List.suffix_refl _
  | _ flags rest ih => exact ih.trans (List.suffix_cons _ rest)

private theorem suffix_readCount (cs : List Char) : (readCount cs).2 <:+ cs := by
  unfold readCount
  split
  · exact List.suffix_cons _ _
  · dsimp only
    split
    · exact List.suffix_refl _
    · exact List.dropWhile_suffix _

private theorem suffix_readPrecision (cs : List Char) : (readPrecision cs).2 <:+ cs := by
  unfold readPrecision
  split
  next rest =>
    have counted := (suffix_readCount rest).trans (List.suffix_cons '.' rest)
    split
    next found =>
      rw [found] at counted
      exact counted
    next => exact counted
  next => exact List.suffix_refl _

private theorem suffix_skipSize (cs : List Char) : skipSize cs <:+ cs := by
  unfold skipSize
  split
  · split
    · exact List.suffix_cons _ _
    · exact List.suffix_refl _
  · exact List.suffix_refl _

private theorem suffix_readSpec (size : Nat) (cs : List Char) : (readSpec size cs).2 <:+ cs := by
  have read := (suffix_skipSize _).trans <| (suffix_readPrecision _).trans <| (suffix_readCount _).trans <|
    (suffix_readFlags {} _).trans (suffix_readKey cs)
  unfold readSpec
  dsimp only
  split
  next found =>
    rw [found] at read
    exact (List.suffix_cons _ _).trans read
  next => exact List.nil_suffix

/-- Literal text stands in the template, or it is a percent sign. -/
theorem mem_of_literal_mem_pieces {template : List Char} {c : Char} (there : .literal c ∈ pieces template) :
    c = '%' ∨ c ∈ template := by
  have literal (size rounds : Nat) (cs : List Char) (there : .literal c ∈ readPieces size rounds cs) :
      c = '%' ∨ c ∈ cs := by
    fun_induction readPieces size rounds cs with
    | case1 => cases there
    | case2 => cases there
    | case3 rounds rest ih =>
      rcases List.mem_cons.mp there with same | there
      · cases same
        exact .inl rfl
      · exact (ih there).imp_right fun later => List.mem_cons_of_mem _ (List.mem_cons_of_mem _ later)
    | case4 rounds rest _ spec after read ih =>
      have suffix := suffix_readSpec size rest
      rw [read] at suffix
      rcases List.mem_cons.mp there with same | there
      · cases same
      · exact (ih there).imp_right fun later => List.mem_cons_of_mem _ (suffix.subset later)
    | case5 rounds d rest _ _ ih =>
      rcases List.mem_cons.mp there with same | there
      · cases same
        exact .inr List.mem_cons_self
      · exact (ih there).imp_right fun later => List.mem_cons_of_mem _ later
  exact literal _ _ template there

/-! ### Conversions -/

/-- The characters of a conversion's text, before it is filled up. -/
def Parts.characters (parts : Parts) : List Char := parts.sign ++ parts.base ++ parts.body

variable {flags : Flags} {precision? : Option Nat} {parts : Parts} {v : Value} {c : Char}

private theorem isVisible_signFor (flags : Flags) (negative : Bool) : ∀ c ∈ signFor flags negative, IsVisible c := by
  unfold signFor
  split
  · exact isVisible_of_all (by decide)
  · split
    · exact isVisible_of_all (by decide)
    · split <;> exact isVisible_of_all (by decide)

private theorem isVisible_integerParts {base : Nat} (large : 1 < base) {mark : List Char}
    (visible : ∀ c ∈ mark, IsVisible c)
    {n : Int} (came : integerParts flags base mark precision? n = .ok parts) :
    ∀ c ∈ parts.characters, IsVisible c := by
  unfold integerParts at came
  simp only at came
  split at came
  · cases came
  · split at came
    · cases came
    · cases came
      refine List.forall_mem_append.mpr ⟨List.forall_mem_append.mpr ⟨isVisible_signFor _ _, ?_⟩, ?_⟩
      · dsimp only
        split
        · exact visible
        · exact nofun
      · exact Number.isVisible_zeros_toDigits large _ _

private theorem isVisible_realParts (style : Number.RoundedStyle) (x : Number.Binary64) :
    ∀ c ∈ (realParts flags style precision? x).characters, IsVisible c := by
  have written := x.isVisible_rounded style (precision?.getD 6) flags.alternate
  unfold realParts
  split
  next body shown =>
    rw [shown] at written
    exact List.forall_mem_append.mpr
      ⟨List.forall_mem_append.mpr ⟨isVisible_signFor flags true, nofun⟩, (List.forall_mem_cons.mp written).2⟩
  next =>
    exact List.forall_mem_append.mpr
      ⟨List.forall_mem_append.mpr ⟨isVisible_signFor flags false, nofun⟩, written⟩

private theorem isVisible_capitals (visible : ∀ c ∈ parts.characters, IsVisible c) :
    ∀ c ∈ parts.capitals.characters, IsVisible c := by
  have raised {cs : List Char} (visible : ∀ c ∈ cs, IsVisible c) : ∀ c ∈ cs.map Char.toUpper, IsVisible c :=
    List.forall_mem_map.mpr fun c there => (visible c there).toUpper
  obtain ⟨start, body⟩ := List.forall_mem_append.mp visible
  obtain ⟨sign, base⟩ := List.forall_mem_append.mp start
  exact List.forall_mem_append.mpr ⟨List.forall_mem_append.mpr ⟨sign, raised base⟩, raised body⟩

/-- Filling up adds visible characters only. -/
theorem mem_fillUp {left zeros : Bool} {width : Nat} (there : c ∈ fillUp left zeros width parts) :
    IsVisible c ∨ c ∈ parts.characters := by
  have filled {d : Char} (visible : IsVisible d) {n : Nat} (there : c ∈ List.replicate n d) : IsVisible c := by
    rw [List.eq_of_mem_replicate there]
    exact visible
  unfold fillUp at there
  unfold Parts.characters
  dsimp only at there
  split at there
  · rw [List.mem_append] at there
    rcases there with there | there
    · exact .inr there
    · exact .inl (filled (by decide) there)
  · split at there
    · simp only [List.mem_append] at there ⊢
      rcases there with (there | there) | there
      · exact .inr (.inl there)
      · exact .inl (filled (by decide) there)
      · exact .inr (.inr there)
    · simp only [List.mem_append] at there ⊢
      rcases there with ((there | there) | there) | there
      · exact .inl (filled (by decide) there)
      · exact .inr (.inl (.inl there))
      · exact .inr (.inl (.inr there))
      · exact .inr (.inr there)

private theorem mem_asciiOnly {s : String} (there : c ∈ (asciiOnly s).toList) : IsVisible c ∨ c ∈ s.toList := by
  rw [asciiOnly, String.toList_ofList] at there
  obtain ⟨d, member, shown⟩ := List.mem_flatMap.mp there
  have coded (mark : Char) (visible : IsVisible mark) (width : Nat)
      (shown : c ∈ '\\' :: mark :: hexDigits width d.toNat) : IsVisible c :=
    List.forall_mem_cons.mpr ⟨by decide, List.forall_mem_cons.mpr ⟨visible, isVisible_hexDigits _ _⟩⟩ c shown
  split at shown
  · rw [List.mem_singleton.mp shown]
    exact .inr member
  · split at shown
    · exact .inl (coded 'x' (by decide) 2 shown)
    · split at shown
      · exact .inl (coded 'u' (by decide) 4 shown)
      · exact .inl (coded 'U' (by decide) 8 shown)

private theorem mem_textParts {cs : List Char} (there : c ∈ (textParts precision? cs).characters) : c ∈ cs := by
  cases precision? with
  | none => exact there
  | some n => exact List.mem_of_mem_take there

private theorem eq_singleton_of_oneCharacter {cs : List Char} (came : oneCharacter v = .ok cs) : ∃ d, cs = [d] := by
  unfold oneCharacter at came
  split at came
  next s =>
    split at came
    next single =>
      cases came
      rw [← String.length_toList] at single
      exact List.length_eq_one_iff.mp single
    next => cases came
  next =>
    split at came
    · cases came
    · split at came
      · cases came
        exact ⟨_, rfl⟩
      · cases came

/-- Where a character of a conversion comes from: it is visible, or it stands in one of the texts of the value, or
the value is shown as that character. -/
theorem mem_of_convert {letter : Char} {index : Nat} {mayZero : Bool}
    (came : convert flags precision? letter index v = .ok (parts, mayZero)) (there : c ∈ parts.characters) :
    IsVisible c ∨ c ∈ (v.display View.blank).toList ∨ c ∈ (v.literal View.blank).toList ∨
      letter = 'c' ∧ oneCharacter v = .ok [c] := by
  have whole (came : (do return (← integerParts flags 10 [] precision? (← wholeNumber v), true)) =
      Except.ok (ε := Fault) (parts, mayZero)) : IsVisible c := by
    obtain ⟨n, -, came⟩ := Except.exists_of_bind_eq_ok came
    obtain ⟨parts', made, came⟩ := Except.exists_of_bind_eq_ok came
    cases came
    exact isVisible_integerParts (by decide) (List.forall_mem_nil _) made c there
  have integer {base : Nat} (large : 1 < base) {mark : Char} (visible : IsVisible mark) {parts' : Parts}
      (made : (do integerParts flags base ['0', mark] precision? (← exactInteger v)) = .ok parts') :
      ∀ c ∈ parts'.characters, IsVisible c := by
    obtain ⟨n, -, made⟩ := Except.exists_of_bind_eq_ok made
    refine isVisible_integerParts large (List.forall_mem_cons.mpr ⟨by decide, ?_⟩) made
    exact List.forall_mem_singleton.mpr visible
  have real {style : Number.RoundedStyle} {parts' : Parts}
      (made : (realNumber v).map (realParts flags style precision?) = .ok parts') :
      ∀ c ∈ parts'.characters, IsVisible c := by
    obtain ⟨x, -, rfl⟩ := Except.exists_of_map_eq_ok made
    exact isVisible_realParts style x
  have text {r : Except Fault String}
      (came : r.map (fun s => (textParts precision? s.toList, false)) = .ok (parts, mayZero)) :
      ∃ s, r = .ok s ∧ c ∈ s.toList := by
    obtain ⟨s, shown, isParts⟩ := Except.exists_of_map_eq_ok came
    cases isParts
    exact ⟨s, shown, mem_textParts there⟩
  -- Numbers are written as they are, or in capitals.
  have lower {made : Except Fault Parts} (came : made.map (·, true) = .ok (parts, mayZero))
      (visible : ∀ parts', made = .ok parts' → ∀ c ∈ parts'.characters, IsVisible c) : IsVisible c := by
    cases made with
    | error fault => cases came
    | ok parts' =>
      cases came
      exact visible parts rfl c there
  have upper {made : Except Fault Parts} (came : made.map (fun p => (p.capitals, true)) = .ok (parts, mayZero))
      (visible : ∀ parts', made = .ok parts' → ∀ c ∈ parts'.characters, IsVisible c) : IsVisible c := by
    cases made with
    | error fault => cases came
    | ok parts' =>
      cases came
      exact isVisible_capitals (visible parts' rfl) c there
  unfold convert at came
  split at came
  case h_1 =>
    obtain ⟨s, shown, member⟩ := text came
    rw [Value.eq_of_shown shown] at member
    exact .inr (.inl member)
  case h_2 =>
    obtain ⟨s, spelled, member⟩ := text came
    rw [Value.eq_of_spelledOut spelled] at member
    exact .inr (.inr (.inl member))
  case h_3 =>
    obtain ⟨s, written, member⟩ := text came
    obtain ⟨s', spelled, rfl⟩ := Except.exists_of_map_eq_ok written
    rcases mem_asciiOnly member with visible | member
    · exact .inl visible
    · rw [Value.eq_of_spelledOut spelled] at member
      exact .inr (.inr (.inl member))
  case h_4 | h_5 | h_6 => exact .inl (whole came)
  case h_7 => exact .inl (lower came fun _ made => integer (by decide) (by decide) made)
  case h_8 => exact .inl (lower came fun _ made => integer (by decide) (by decide) made)
  case h_9 => exact .inl (upper came fun _ made => integer (by decide) (by decide) made)
  case h_10 | h_12 | h_14 => exact .inl (lower came fun _ made => real made)
  case h_11 | h_13 | h_15 => exact .inl (upper came fun _ made => real made)
  case h_16 =>
    refine .inr (.inr (.inr ⟨rfl, ?_⟩))
    cases shown : oneCharacter v with
    | error fault =>
      rw [shown] at came
      cases came
    | ok cs =>
      obtain ⟨d, rfl⟩ := eq_singleton_of_oneCharacter shown
      rw [shown] at came
      cases came
      rw [List.mem_singleton.mp there]
  case h_17 => cases came

end Template

end Text

end HostBridge
