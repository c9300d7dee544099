import Mathlib.Data.List.Induction
import HostBridge.Memory.Form
import HostBridge.Proofs.Tokens
import HostBridge.Value.Equality

/-!
# Forms

What can be read is a form: the value of an atom, a quoted text, or a collection of forms. A printed form is
cut into the tokens that it is made of, so reading it gives the form again.
-/

namespace HostBridge

/-! ### Digits -/

namespace Text

variable {c : Char}

private theorem lt_of_digitValue? {d : Nat} (digit : digitValue? c = some d) : d < 10 := by
  unfold digitValue? at digit
  split at digit
  next ascii =>
    have upper : c.toNat ≤ 57 := ascii.2
    cases digit
    have zero : '0'.toNat = 48 := rfl
    omega
  next =>
    obtain ⟨first, found, rfl⟩ := Option.map_eq_some_iff.mp digit
    have range := List.find?_some found
    simp only [decide_eq_true_eq] at range
    omega

private theorem digitsValue_append (ds : List Char) (c : Char) :
    digitsValue (ds ++ [c]) = 10 * digitsValue ds + (digitValue? c).getD 0 := by
  simp [digitsValue]

private theorem digitsValue_lt (ds : List Char) : digitsValue ds < Number.tenTo ds.length := by
  induction ds using List.reverseRecOn with
  | nil => decide
  | append_singleton ds c ih =>
    have last : (digitValue? c).getD 0 < 10 := by
      cases digit : digitValue? c with
      | none => decide
      | some d => exact lt_of_digitValue? digit
    rw [digitsValue_append, List.length_append, List.length_singleton, Number.tenTo_succ]
    omega

private theorem digitValue?_digitChar {d : Nat} (small : d < 10) : digitValue? d.digitChar = some d := by
  have each : ∀ d < 10, digitValue? d.digitChar = some d := by decide
  exact each d small

private theorem digitsValue_toDigits (n : Nat) : digitsValue (Nat.toDigits 10 n) = n := by
  induction n using Nat.strongRecOn with
  | ind n ih =>
    rw [Nat.toDigits_eq_if (by decide)]
    split
    next small => simp [digitsValue, digitValue?_digitChar small]
    next large =>
      have lastDigit : n % 10 < 10 := Nat.mod_lt n (by decide)
      rw [digitsValue_append, ih (n / 10) (by omega), digitValue?_digitChar lastDigit, Option.getD_some]
      omega

private theorem length_toDigits_le {n k : Nat} (positive : 0 < k) (small : n < Number.tenTo k) :
    (Nat.toDigits 10 n).length ≤ k :=
  (Nat.length_toDigits_le_iff (by decide) positive).mpr small

end Text

namespace Memory

open Number (tenTo)
open Token (IsBody IsWord Stops)

namespace Form

/-! ### Atoms -/

variable {name : List Char} {v : Value} {n : Int}

private theorem isAtomChar_of_isDigit {c : Char} (digit : c.isDigit = true) : Token.isAtomChar c = true := by
  simp only [Char.isDigit, Bool.and_eq_true, decide_eq_true_eq] at digit
  have least : 48 ≤ c.toNat := digit.1
  have greatest : c.toNat ≤ 57 := digit.2
  have differs (d : Char) (outside : d.toNat < 48 ∨ 57 < d.toNat) : c ≠ d := by
    rintro rfl
    omega
  refine Token.isAtomChar_iff.mpr ⟨?_, differs ',' (by decide), differs '"' (by decide), ?_⟩
  · have noBlank : ¬ Text.isBlank c = true := by
      simp only [Text.isBlank, Bool.or_eq_true, Bool.and_eq_true, decide_eq_true_eq, beq_iff_eq]
      omega
    simpa using noBlank
  · have opens (kind : CollKind) : Token.openBracket kind ≠ c := by
      cases kind <;> exact (differs _ (by decide)).symm
    have closes (kind : CollKind) : Token.closeBracket kind ≠ c := by
      cases kind <;> exact (differs _ (by decide)).symm
    simp [Token.bracket?, Token.kinds, opens, closes]

private theorem toList_toString (n : Int) : (toString n).toList =
    if n < 0 then '-' :: Nat.toDigits 10 n.natAbs else Nat.toDigits 10 n.natAbs := by
  rw [Int.toString_eq_repr, Int.repr_eq_if]
  by_cases negative : n < 0
  · have magnitude : (-n).toNat = n.natAbs := by omega
    rw [if_neg (by omega), if_pos negative, magnitude, Nat.repr_eq_ofList_toDigits]
    simp
  · have magnitude : n.toNat = n.natAbs := by omega
    rw [if_pos (by omega), if_neg negative, magnitude, Nat.repr_eq_ofList_toDigits]
    simp

private theorem isWord_toString (n : Int) : IsWord (toString n).toList := by
  have digits : ∀ c ∈ Nat.toDigits 10 n.natAbs, Token.isAtomChar c = true := fun c member =>
    isAtomChar_of_isDigit (Nat.isDigit_of_mem_toDigits (by decide) (by decide) member)
  rw [toList_toString]
  split
  · refine ⟨List.cons_ne_nil _ _, fun c member => ?_⟩
    rcases List.mem_cons.mp member with rfl | later
    · decide
    · exact digits c later
  · exact ⟨Nat.toDigits_ne_nil, digits⟩

private theorem integer?_of_digits {c : Char} {ds : List Char} (noSign : c ≠ '-')
    (digits : ((c :: ds).all fun d => (Text.digitValue? d).isSome) = true) :
    integer? (c :: ds) = some (false, c :: ds) := by
  unfold integer?
  split
  next same =>
    split at same
    next sign =>
      cases sign
      exact (noSign rfl).elim
    next =>
      cases same
      simp [-List.all_cons, digits]

private theorem integer?_toString (n : Int) :
    integer? (toString n).toList = some (decide (n < 0), Nat.toDigits 10 n.natAbs) := by
  have isDigit : ∀ c ∈ Nat.toDigits 10 n.natAbs, c.isDigit = true := fun c member =>
    Nat.isDigit_of_mem_toDigits (by decide) (by decide) member
  have all_digits : (Nat.toDigits 10 n.natAbs).all (fun c => (Text.digitValue? c).isSome) = true := by
    refine List.all_eq_true.mpr fun c member => ?_
    have digit := isDigit c member
    simp only [Char.isDigit, Bool.and_eq_true, decide_eq_true_eq] at digit
    have range : '0' ≤ c ∧ c ≤ '9' := digit
    simp [Text.digitValue?, range]
  have some_digit : (Nat.toDigits 10 n.natAbs).isEmpty = false := by
    simp [Nat.toDigits_ne_nil]
  rw [toList_toString]
  split
  next negative => simp [integer?, negative, some_digit, all_digits]
  next positive =>
    cases shown : Nat.toDigits 10 n.natAbs with
    | nil => exact absurd shown Nat.toDigits_ne_nil
    | cons c ds =>
      have digit : c.isDigit = true := isDigit c (by rw [shown]; exact List.mem_cons_self)
      have noSign : c ≠ '-' := by
        rintro rfl
        exact absurd digit (by decide)
      rw [shown] at all_digits
      simp [integer?_of_digits noSign all_digits, positive]

private theorem ofAtom_toString (short : n.natAbs < tenTo digitLimit) : ofAtom (toString n).toList = .ok (.int n) := by
  have few : ¬ digitLimit < (Nat.toDigits 10 n.natAbs).length :=
    Nat.not_lt.mpr (Text.length_toDigits_le (by decide) short)
  unfold ofAtom
  rw [integer?_toString]
  simp only [few, if_false, Text.digitsValue_toDigits, decide_eq_true_eq]
  split
  next negative =>
    have magnitude : -(n.natAbs : Int) = n := by omega
    rw [magnitude]
  next positive =>
    have magnitude : (n.natAbs : Int) = n := by omega
    rw [magnitude]

/-- The value is one that an atom can have. -/
def IsAtom : Value → Prop
  | .nil | .bool _ | .int _ | .keyword _ | .symbol _ => True
  | _ => False

private theorem ofAtom_cases (reads : ofAtom name = .ok v) :
    (∃ n : Int, v = .int n ∧ n.natAbs < tenTo digitLimit) ∨
      printsLongInteger v = false ∧ IsAtom v ∧ ∀ view, (printed view v).toList = name := by
  unfold ofAtom at reads
  split at reads
  next negative ds integer =>
    split at reads
    next => cases reads
    next few =>
      have size : Text.digitsValue ds < tenTo digitLimit :=
        Nat.lt_of_lt_of_le (Text.digitsValue_lt ds) (Number.tenTo_le_tenTo (Nat.not_lt.mp few))
      refine .inl ⟨_, (Except.ok.inj reads).symm, ?_⟩
      split
      · rw [Int.natAbs_neg]
        exact size
      · exact size
  next =>
    refine .inr ?_
    split at reads
    next same =>
      cases reads
      exact ⟨rfl, trivial, fun view => same.symm⟩
    next =>
      split at reads
      next same =>
        cases reads
        exact ⟨rfl, trivial, fun view => same.symm⟩
      next =>
        split at reads
        next same =>
          cases reads
          exact ⟨rfl, trivial, fun view => same.symm⟩
        next =>
          split at reads
          next rest =>
            cases reads
            exact ⟨rfl, trivial, fun view => by simp [printed]⟩
          next =>
            cases reads
            exact ⟨rfl, trivial, fun view => by simp [printed]⟩

/-- An atom has the value of one. -/
theorem isAtom_of_ofAtom (reads : ofAtom name = .ok v) : IsAtom v := by
  rcases ofAtom_cases reads with ⟨n, rfl, -⟩ | ⟨-, isAtom, -⟩
  · trivial
  · exact isAtom

private theorem printsLongInteger_of_ofAtom (reads : ofAtom name = .ok v) : printsLongInteger v = false := by
  rcases ofAtom_cases reads with ⟨n, rfl, short⟩ | ⟨short, -⟩
  · simpa [printsLongInteger, Value.displaysLongInteger, Value.showsLongInteger, Primitive.exceedsDigits] using short
  · exact short

/-- The printed value of an atom is a word. -/
theorem isWord_printed (isWord : IsWord name) (reads : ofAtom name = .ok v) (view : View) :
    IsWord (printed view v).toList := by
  rcases ofAtom_cases reads with ⟨n, rfl, -⟩ | ⟨-, -, same⟩
  · exact isWord_toString n
  · rw [same view]
    exact isWord

private theorem ofAtom_printed (reads : ofAtom name = .ok v) (view : View) :
    ofAtom (printed view v).toList = .ok v := by
  rcases ofAtom_cases reads with ⟨n, rfl, short⟩ | ⟨-, -, same⟩
  · exact ofAtom_toString short
  · rw [same view]
    exact reads

/-- The value of an atom equals itself. -/
theorem equalAs_of_isAtom (item : Bool) (isAtom : IsAtom v) : v.equalAs item v = true := by
  unfold IsAtom at isAtom
  split at isAtom <;> simp_all [Value.equalAs, Primitive.equal, Primitive.integer?]

/-! ### Quoted texts -/

/-- A character as it is written between quotes. -/
def escape (c : Char) : List Char := if c = '"' then ['\\', '"'] else [c]

/-- A quoted text stands between quotes. -/
theorem toList_quoted (s : String) : (quoted s).toList = '"' :: (s.toList.flatMap escape ++ ['"']) := by
  simp only [quoted, String.toList_ofList, List.cons_append]
  rfl

private theorem unquote_backslash {body : List Char} (isBody : IsBody body) :
    unquote ('\\' :: body) = '\\' :: unquote body := by
  cases isBody with
  | nil => rfl
  | escaped sameLine others => rfl
  | plain noQuote noBackslash others => rw [unquote.eq_2 _ _ (by simpa using noQuote)]

private theorem head?_flatMap_escape (cs rest : List Char) : cs.flatMap escape ≠ '"' :: rest := by
  cases cs with
  | nil => simp
  | cons c cs =>
    by_cases isQuote : c = '"'
    · simp [escape, isQuote]
    · simp [escape, isQuote]

private theorem unquote_flatMap_escape (cs : List Char) : unquote (cs.flatMap escape) = cs := by
  induction cs with
  | nil => rfl
  | cons c cs ih =>
    rw [List.flatMap_cons]
    by_cases isQuote : c = '"'
    · simp [escape, isQuote, unquote, ih]
    · have written : unquote (c :: cs.flatMap escape) = c :: unquote (cs.flatMap escape) :=
        unquote.eq_2 _ _ fun rest _ same => head?_flatMap_escape cs rest same
      simp [escape, isQuote, written, ih]

private theorem flatMap_escape_unquote {body : List Char} (isBody : IsBody body) :
    (unquote body).flatMap escape = body := by
  induction isBody with
  | nil => rfl
  | @escaped c rest sameLine others ih =>
    by_cases isQuote : c = '"'
    · subst isQuote
      simp [unquote, escape, ih]
    · by_cases isBackslash : c = '\\'
      · subst isBackslash
        rw [unquote.eq_2 _ _ (by simp), unquote_backslash others]
        simp [escape, ih]
      · rw [unquote.eq_2 _ _ (by simpa using isQuote), unquote.eq_2 _ _ (by simp [isBackslash])]
        simp [escape, isQuote, ih]
  | @plain c rest noQuote noBackslash others ih =>
    rw [unquote.eq_2 _ _ (by simp [noBackslash])]
    simp [escape, noQuote, ih]

/-! ### Forms -/

/-- A value that can be read. -/
inductive IsForm : Value → Prop
  | atom {name : List Char} {v : Value} (isWord : IsWord name) (reads : ofAtom name = .ok v) : IsForm v
  | text {s : String} (isBody : IsBody (s.toList.flatMap escape)) : IsForm (.text s)
  | coll {kind : CollKind} {items : List Value} (each : ∀ v ∈ items, IsForm v) : IsForm (.coll kind items)

variable {stack : List Open} {tokens : List Token}

private theorem allPrinted_eq_map (view : View) (items : List Value) :
    allPrinted view items = items.map (printed view) := by
  induction items with
  | nil => rfl
  | cons v rest ih => simp [allPrinted, ih]

/-- There is a space between an item and the next one. -/
theorem toList_printed_items (view : View) (v w : Value) (others : List Value) :
    (" ".intercalate ((v :: w :: others).map (printed view))).toList =
      (printed view v).toList ++ ' ' :: (" ".intercalate ((w :: others).map (printed view))).toList := by
  simp [String.toList_intercalate]

/-- A collection stands between its brackets. -/
theorem toList_printed_coll (view : View) (kind : CollKind) (items : List Value) :
    (printed view (.coll kind items)).toList = Token.openBracket kind ::
      ((" ".intercalate (items.map (printed view))).toList ++ [Token.closeBracket kind]) := by
  simp [printed, allPrinted_eq_map]

private theorem printsLongInteger_of_isForm (isForm : IsForm v) : printsLongInteger v = false := by
  induction isForm with
  | atom isWord reads => exact printsLongInteger_of_ofAtom reads
  | text isBody => rfl
  | @coll kind items each ih =>
    have none_long : anyPrintsLongInteger items = false := by
      clear each
      induction items with
      | nil => rfl
      | cons v rest ihRest =>
        simp only [List.mem_cons, forall_eq_or_imp] at ih
        simp [anyPrintsLongInteger, ih.1, ihRest ih.2]
    simpa [printsLongInteger] using none_long

private theorem printed_of_isForm (isForm : IsForm v) (view view' : View) :
    printed view v = printed view' v := by
  induction isForm with
  | atom isWord reads =>
    rcases ofAtom_cases reads with ⟨n, rfl, -⟩ | ⟨-, -, same⟩
    · rfl
    · exact String.toList_inj.mp ((same view).trans (same view').symm)
  | text isBody => rfl
  | coll each ih =>
    have same : ∀ v ∈ _, printed view v = printed view' v := ih
    simp [printed, allPrinted_eq_map, List.map_congr_left same]

/-- A form can be printed, as the same text whatever is owned. -/
theorem print_of_isForm (isForm : IsForm v) (view : View) :
    print view v = .ok (printed View.blank v) := by
  rw [print, printsLongInteger_of_isForm isForm, printed_of_isForm isForm view View.blank]
  rfl

/-- A form equals itself. -/
theorem equalAs_of_isForm (isForm : IsForm v) (item : Bool) : v.equalAs item v = true := by
  induction isForm generalizing item with
  | atom isWord reads => exact equalAs_of_isAtom item (isAtom_of_ofAtom reads)
  | text isBody => simp [Value.equalAs, Primitive.equal]
  | @coll kind items each ih =>
    have all_equal : Value.equalItems items items = true := by
      clear each
      induction items with
      | nil => simp [Value.equalItems]
      | cons v rest ihRest =>
        simp only [List.mem_cons, forall_eq_or_imp] at ih
        simp [Value.equalItems, ih.1, ihRest ih.2]
    simp [Value.equalAs, all_equal]

/-! ### Reading what is printed -/

/-- What is left to read once a form of an open collection, or the whole form, has been read. -/
def resume : List Open → Value → List Token → Except ReadFault Value
  | [], v, _ => .ok v
  | o :: stack, v, rest => read (⟨o.kind, v :: o.items⟩ :: stack) rest

private theorem read_atom (reads : ofAtom name = .ok v) :
    read stack (.atom name :: tokens) = resume stack v tokens := by
  cases stack <;> simp [read, reads, resume]

private theorem read_quoted (body : List Char) :
    read stack (.quoted body :: tokens) = resume stack (.text (String.ofList (unquote body))) tokens := by
  cases stack <;> rfl

private theorem read_opener {kind : CollKind} :
    read stack (.opener kind :: tokens) = read (⟨kind, []⟩ :: stack) tokens := by
  rw [read]

private theorem read_closer (kind : CollKind) (items : List Value) :
    read (⟨kind, items⟩ :: stack) (.closer kind :: tokens) =
      resume stack (.coll kind items.reverse) tokens := by
  cases stack <;> simp [read, resume]

/-- The form is read where it is printed, whatever collections are open. -/
def IsReadBack (view : View) (v : Value) : Prop :=
  ∀ (stack : List Open) (rest : List Char), Stops rest →
    read stack (Token.ofText ((printed view v).toList ++ rest)) = resume stack v (Token.ofText rest)

private theorem read_items {view : View} {kind : CollKind} {items : List Value}
    (each : ∀ v ∈ items, IsReadBack view v) (before : List Value) (rest : List Char) :
    read (⟨kind, before⟩ :: stack)
        (Token.ofText ((" ".intercalate (items.map (printed view))).toList ++
          Token.closeBracket kind :: rest)) =
      resume stack (.coll kind (before.reverse ++ items)) (Token.ofText rest) := by
  have closes : Stops (Token.closeBracket kind :: rest) :=
    Token.stops_cons.mpr (Token.isAtomChar_of_bracket (Token.bracket?_closeBracket kind))
  induction items generalizing before with
  | nil =>
    rw [List.map_nil, String.intercalate_nil, String.toList_empty, List.nil_append, List.append_nil,
      Token.ofText_cons_of_bracket (Token.bracket?_closeBracket kind), read_closer]
  | cons v others ih =>
    have first (rest : List Char) := each v List.mem_cons_self (⟨kind, before⟩ :: stack) rest
    have later := ih (fun w member => each w (List.mem_cons_of_mem v member)) (v :: before)
    cases others with
    | nil =>
      rw [List.map_singleton, String.intercalate_singleton, first _ closes,
        Token.ofText_cons_of_bracket (Token.bracket?_closeBracket kind)]
      simp [resume, read_closer]
    | cons w others =>
      have space : Stops (' ' :: ((" ".intercalate ((w :: others).map (printed view))).toList ++
          Token.closeBracket kind :: rest)) := Token.stops_cons.mpr (by decide)
      rw [toList_printed_items, List.append_assoc, List.cons_append, first _ space, Token.ofText_space]
      simpa [resume] using later

private theorem isReadBack_of_isForm (view : View) (isForm : IsForm v) : IsReadBack view v := by
  induction isForm with
  | atom isWord reads =>
    intro stack rest stops
    rw [Token.ofText_word (isWord_printed isWord reads view) stops, read_atom (ofAtom_printed reads view)]
  | @text s isBody =>
    intro stack rest stops
    have written : (printed view (.text s)).toList ++ rest =
        '"' :: (s.toList.flatMap escape ++ '"' :: rest) := by
      simp [printed, toList_quoted]
    rw [written, Token.ofText_quoted isBody, read_quoted, unquote_flatMap_escape, String.ofList_toList]
  | @coll kind items each ih =>
    intro stack rest stops
    have written : (printed view (.coll kind items)).toList ++ rest =
        Token.openBracket kind :: ((" ".intercalate (items.map (printed view))).toList ++
          Token.closeBracket kind :: rest) := by
      simp [toList_printed_coll]
    rw [written, Token.ofText_cons_of_bracket (Token.bracket?_openBracket kind), read_opener, read_items ih [] rest]
    rfl

/-- A printed form is read as that form. -/
theorem ofText_printed (isForm : IsForm v) (view : View) :
    ofText (printed view v) = .ok v := by
  have readBack := isReadBack_of_isForm view isForm [] [] Token.stops_nil
  simpa [ofText, resume] using readBack

/-! ### What can be read -/

/-- What has been read so far of the open collections are forms. -/
def HoldsForms (stack : List Open) : Prop := ∀ o ∈ stack, ∀ v ∈ o.items, IsForm v

private theorem holdsForms_cons {o : Open} (holds : HoldsForms (o :: stack)) (isForm : IsForm v) :
    HoldsForms (⟨o.kind, v :: o.items⟩ :: stack) := by
  obtain ⟨each, below⟩ := List.forall_mem_cons.mp holds
  exact List.forall_mem_cons.mpr ⟨List.forall_mem_cons.mpr ⟨isForm, each⟩, below⟩

private theorem isForm_of_holdsForms {o : Open} (holds : HoldsForms (o :: stack)) :
    IsForm (.coll o.kind o.items.reverse) :=
  .coll fun v member => holds o List.mem_cons_self v (List.mem_reverse.mp member)

private theorem isForm_unquote {body : List Char} (isBody : IsBody body) :
    IsForm (.text (String.ofList (unquote body))) := by
  refine .text ?_
  rw [String.toList_ofList, flatMap_escape_unquote isBody]
  exact isBody

private theorem isForm_of_read (holds : HoldsForms stack) (sound : ∀ token ∈ tokens, token.IsSound)
    (reads : read stack tokens = .ok v) : IsForm v := by
  fun_induction read stack tokens with
  | case1 => cases reads
  | case2 stack kind rest ih =>
    have opened : HoldsForms (⟨kind, []⟩ :: stack) := List.forall_mem_cons.mpr ⟨List.forall_mem_nil _, holds⟩
    exact ih opened (fun token later => sound token (List.mem_cons_of_mem _ later)) reads
  | case3 => cases reads
  | case4 o rest =>
    rw [← Except.ok.inj reads]
    exact isForm_of_holdsForms holds
  | case5 o rest p stack _ ih =>
    have closed := holdsForms_cons (List.forall_mem_cons.mp holds).2 (isForm_of_holdsForms holds)
    exact ih closed (fun token later => sound token (List.mem_cons_of_mem _ later)) reads
  | case6 => cases reads
  | case7 body rest =>
    cases reads
    exact isForm_unquote (sound (.quoted body) List.mem_cons_self)
  | case8 o stack body rest ih =>
    have one_more := holdsForms_cons holds (isForm_unquote (sound (.quoted body) List.mem_cons_self))
    exact ih one_more (fun token later => sound token (List.mem_cons_of_mem _ later)) reads
  | case9 => cases reads
  | case10 name rest v isAtom =>
    cases reads
    exact .atom (sound (.atom name) List.mem_cons_self) isAtom
  | case11 name rest v isAtom o stack ih =>
    have one_more := holdsForms_cons holds (.atom (sound (.atom name) List.mem_cons_self) isAtom)
    exact ih one_more (fun token later => sound token (List.mem_cons_of_mem _ later)) reads

/-- What a text is read as is a form. -/
theorem isForm_of_ofText {text : String} (reads : ofText text = .ok v) : IsForm v :=
  isForm_of_read (List.forall_mem_nil _) (fun _ member => Token.isSound_of_mem_scan member) reads

end Form

end Memory

end HostBridge
