import HostBridge.Memory.Form

/-!
# What texts are cut into

A text is cut into tokens from its beginning on. For every way a text can begin there is an equation, and the
tokens of any text are sound: words are made of the characters of words, and in a quoted text a quote stands
only after a backslash.
-/

namespace HostBridge.Memory.Token

/-- What stands between quotes: a backslash takes the next character with it, which is no line feed, and all
other characters stand for themselves, but no quote does. -/
inductive IsBody : List Char → Prop
  | nil : IsBody []
  | escaped {c : Char} {rest : List Char} (sameLine : c ≠ '\n') (others : IsBody rest) :
      IsBody ('\\' :: c :: rest)
  | plain {c : Char} {rest : List Char} (noQuote : c ≠ '"') (noBackslash : c ≠ '\\')
      (others : IsBody rest) : IsBody (c :: rest)

/-- A row of characters that stand in atoms. -/
structure IsWord (name : List Char) : Prop where
  nonempty : name ≠ []
  chars : ∀ c ∈ name, isAtomChar c = true

/-- No atom goes on here. -/
def Stops (rest : List Char) : Prop := ∀ c ∈ rest.head?, isAtomChar c = false

/-- The token is one that a text can be cut into. -/
def IsSound : Token → Prop
  | .opener _ | .closer _ => True
  | .quoted body => IsBody body
  | .atom name => IsWord name

variable {c : Char} {name text rest body : List Char} {rounds : Nat}

/-! ### Characters -/

/-- Opening brackets are read as such. -/
@[simp] theorem bracket?_openBracket (kind : CollKind) : bracket? (openBracket kind) = some (.opener kind) := by
  cases kind <;> rfl

/-- Closing brackets are read as such. -/
@[simp] theorem bracket?_closeBracket (kind : CollKind) :
    bracket? (closeBracket kind) = some (.closer kind) := by
  cases kind <;> rfl

/-- A character of an atom is no blank, comma, quote or bracket. -/
theorem isAtomChar_iff : isAtomChar c = true ↔
    Text.isBlank c = false ∧ c ≠ ',' ∧ c ≠ '"' ∧ bracket? c = none := by
  simp [isAtomChar, and_assoc]

/-- A bracket stands in no atom. -/
theorem isAtomChar_of_bracket {token : Token} (bracket : bracket? c = some token) :
    isAtomChar c = false := by
  simp [isAtomChar, bracket]

/-- No atom goes on where a text ends. -/
@[simp] theorem stops_nil : Stops [] := by simp [Stops]

/-- Whether an atom goes on depends on the next character. -/
@[simp] theorem stops_cons : Stops (c :: rest) ↔ isAtomChar c = false := by simp [Stops]

/-! ### Quoted texts -/

private theorem untilQuote_append (isBody : IsBody body) (rest : List Char) :
    untilQuote (body ++ '"' :: rest) = some (body, rest) := by
  induction isBody with
  | nil => rfl
  | escaped sameLine others ih => simp [untilQuote, sameLine, ih]
  | plain noQuote noBackslash others ih =>
    rw [List.cons_append, untilQuote.eq_5 _ _ noQuote noBackslash, ih]
    rfl

private theorem of_untilQuote (found : untilQuote text = some (body, rest)) :
    IsBody body ∧ text = body ++ '"' :: rest := by
  fun_induction untilQuote text generalizing body rest with
  | case1 => cases found
  | case2 after =>
    cases found
    exact ⟨.nil, rfl⟩
  | case3 => cases found
  | case4 after => cases found
  | case5 c after sameLine ih =>
    obtain ⟨⟨inner, after'⟩, found', same⟩ := Option.map_eq_some_iff.mp found
    cases same
    obtain ⟨isBody, rfl⟩ := ih found'
    exact ⟨.escaped sameLine isBody, rfl⟩
  | case6 c after noQuote noBackslash ih =>
    obtain ⟨⟨inner, after'⟩, found', same⟩ := Option.map_eq_some_iff.mp found
    cases same
    obtain ⟨isBody, rfl⟩ := ih found'
    exact ⟨.plain noQuote noBackslash isBody, rfl⟩

/-! ### Cutting -/

/-- Nothing is cut into nothing. -/
@[simp] theorem scan_nil (rounds : Nat) : scan rounds [] = [] := by
  cases rounds <;> rfl

private theorem scan_eq_scan {rounds rounds' : Nat} (enough : text.length ≤ rounds)
    (enough' : text.length ≤ rounds') : scan rounds text = scan rounds' text := by
  induction rounds generalizing text rounds' with
  | zero =>
    have empty : text = [] := List.eq_nil_of_length_eq_zero (by omega)
    rw [empty, scan_nil, scan_nil]
  | succ rounds ih =>
    cases text with
    | nil => rw [scan_nil, scan_nil]
    | cons c rest =>
      cases rounds' with
      | zero => simp at enough'
      | succ rounds' =>
        have shorter {after : List Char} (le : after.length ≤ rest.length) :
            scan rounds after = scan rounds' after := by
          simp only [List.length_cons] at enough enough'
          exact ih (by omega) (by omega)
        have afterWord : (rest.dropWhile isAtomChar).length ≤ rest.length :=
          (List.dropWhile_suffix isAtomChar).length_le
        simp only [scan, shorter (Nat.le_refl _), shorter afterWord]
        cases quoted : untilQuote rest with
        | none => rfl
        | some found =>
          obtain ⟨inner, after⟩ := found
          have le : after.length ≤ rest.length := by
            rw [(of_untilQuote quoted).2, List.length_append, List.length_cons]
            omega
          simp only [shorter le]

private theorem scan_of_le (enough : text.length ≤ rounds) : scan rounds text = ofText text :=
  scan_eq_scan enough (Nat.le_refl _)

/-- Nothing has no tokens. -/
@[simp] theorem ofText_nil : ofText [] = [] := rfl

/-- A bracket is a token of its own. -/
theorem ofText_cons_of_bracket {token : Token} (bracket : bracket? c = some token) (rest : List Char) :
    ofText (c :: rest) = token :: ofText rest := by
  simp [ofText, scan, bracket]

/-- A space separates tokens. -/
@[simp] theorem ofText_space (rest : List Char) : ofText (' ' :: rest) = ofText rest := rfl

/-- A quoted text is one token. -/
theorem ofText_quoted (isBody : IsBody body) (rest : List Char) :
    ofText ('"' :: (body ++ '"' :: rest)) = .quoted body :: ofText rest := by
  have enough : rest.length ≤ (body ++ '"' :: rest).length := by
    rw [List.length_append, List.length_cons]
    omega
  have noBracket : bracket? '"' = none := rfl
  rw [ofText, List.length_cons, scan, noBracket]
  simp only [if_true, untilQuote_append isBody, scan_of_le enough]

/-- A word is one token, if it does not go on. -/
theorem ofText_word (isWord : IsWord name) (stops : Stops rest) :
    ofText (name ++ rest) = .atom name :: ofText rest := by
  obtain ⟨c, others, rfl⟩ := List.exists_cons_of_ne_nil isWord.nonempty
  have first : isAtomChar c = true := isWord.chars c List.mem_cons_self
  have later : ∀ d ∈ others, isAtomChar d = true := fun d member =>
    isWord.chars d (List.mem_cons_of_mem c member)
  obtain ⟨-, -, noQuote, noBracket⟩ := isAtomChar_iff.mp first
  have taken : (others ++ rest).takeWhile isAtomChar = others := by
    rw [List.takeWhile_append_of_pos later]
    cases rest with
    | nil => simp
    | cons d rest => simp [stops_cons.mp stops]
  have dropped : (others ++ rest).dropWhile isAtomChar = rest := by
    rw [List.dropWhile_append_of_pos later]
    cases rest with
    | nil => rfl
    | cons d rest => simp [stops_cons.mp stops]
  have enough : rest.length ≤ (others ++ rest).length := by
    rw [List.length_append]
    omega
  rw [List.cons_append, ofText, List.length_cons, scan, noBracket]
  simp only [noQuote, first, if_true, if_false, taken, dropped, scan_of_le enough]

private theorem isSound_of_bracket {token : Token} (bracket : bracket? c = some token) : token.IsSound := by
  unfold bracket? at bracket
  split at bracket
  · cases bracket
    trivial
  · obtain ⟨kind, -, rfl⟩ := Option.map_eq_some_iff.mp bracket
    trivial

/-- All tokens that a text is cut into are sound. -/
theorem isSound_of_mem_scan {token : Token} (member : token ∈ scan rounds text) : token.IsSound := by
  fun_induction scan rounds text with
  | case1 => cases member
  | case2 => cases member
  | case3 rounds c rest bracket found ih =>
    rcases List.mem_cons.mp member with rfl | later
    · exact isSound_of_bracket found
    · exact ih later
  | case4 rounds rest inner after found _ ih =>
    rcases List.mem_cons.mp member with rfl | later
    · exact (of_untilQuote found).1
    · exact ih later
  | case5 rounds rest _ _ ih => exact ih member
  | case6 rounds c rest _ noQuote first ih =>
    rcases List.mem_cons.mp member with rfl | later
    · refine ⟨List.cons_ne_nil c _, fun d inWord => ?_⟩
      rcases List.mem_cons.mp inWord with rfl | others
      · exact first
      · exact List.all_eq_true.mp List.all_takeWhile d others
    · exact ih later
  | case7 rounds c rest _ _ _ ih => exact ih member

end HostBridge.Memory.Token
