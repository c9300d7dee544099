import HostBridge.Config.Loader
import HostBridge.Text.Word

/-!
# Files of environment variables

One binding a line: `NAME=value`, with or without `export` in front. Values are plain, or in single or
double quotes; a plain value ends before a comment. A name alone binds nothing, and a line that cannot be
read is passed over. Values may refer to variables, those of the environment and those bound before. The
bindings are applied one after another, each unless its variable is set already.
-/

namespace HostBridge.Config.VariablesFile

open HostBridge.Text (isBlank strip)

/-- A blank within a line. -/
def isLineBlank (c : Char) : Bool := isBlank c && c != '\n'

/-- Without the blanks that a line starts with. -/
def skipLineBlanks (cs : List Char) : List Char := cs.dropWhile isLineBlank

/-- Line ends of every kind become one line feed. -/
def unifyLineEnds : List Char → List Char
  | [] => []
  | '\r' :: '\n' :: rest => '\n' :: unifyLineEnds rest
  | c :: rest => (if c = '\r' then '\n' else c) :: unifyLineEnds rest

/-- Without the word `export` and the blanks after it, if a binding starts with them. -/
def skipExport (cs : List Char) : List Char :=
  match "export".toList.isPrefixOf? cs with
  | some rest => if rest.head?.any isLineBlank then skipLineBlanks rest else cs
  | none => cs

/-- A name, plain or in single quotes. -/
def name? : List Char → Option (List Char × List Char)
  | '\'' :: rest =>
    let name := rest.takeWhile (· != '\'')
    match rest.dropWhile (· != '\'') with
    | _ :: after => if name.isEmpty then none else some (name, after)
    | [] => none
  | cs =>
    let inName := fun c => !(c == '=' || c == '#' || isBlank c)
    let name := cs.takeWhile inName
    if name.isEmpty then none else some (name, cs.dropWhile inName)

/-- What stands before the closing quote, and what follows it. A character after a backslash never closes. -/
def untilQuote (quote : Char) : List Char → Option (List Char × List Char)
  | [] => none
  | ['\\'] => none
  | '\\' :: c :: rest => (untilQuote quote rest).map fun r => ('\\' :: c :: r.1, r.2)
  | c :: rest =>
    if c = quote then some ([], rest) else (untilQuote quote rest).map fun r => (c :: r.1, r.2)

/-- The character that a backslash and a letter stand for in double quotes. -/
def escape? : Char → Option Char
  | '\\' => some '\\'
  | '\'' => some '\''
  | '"' => some '"'
  | 'a' => some '\x07'
  | 'b' => some '\x08'
  | 'f' => some '\x0c'
  | 'n' => some '\n'
  | 'r' => some '\r'
  | 't' => some '\t'
  | 'v' => some '\x0b'
  | _ => none

/-- The character that a backslash and a quote or backslash stand for in single quotes. -/
def plainEscape? (c : Char) : Option Char :=
  if c = '\\' ∨ c = '\'' then some c else none

/-- Replace the escapes that `escape` knows; other backslashes stay. -/
def decode (escape : Char → Option Char) : List Char → List Char
  | '\\' :: c :: rest =>
    match escape c with
    | some d => d :: decode escape rest
    | none => '\\' :: decode escape (c :: rest)
  | c :: rest => c :: decode escape rest
  | [] => []

/-- What a plain value keeps: all before a comment, which follows a blank. -/
def uncommented : List Char → List Char
  | c :: '#' :: rest => if isBlank c then [] else c :: uncommented ('#' :: rest)
  | c :: rest => c :: uncommented rest
  | [] => []

/-- A value and what follows it. Blanks around it do not belong to it. -/
def value? (cs : List Char) : Option (List Char × List Char) :=
  match skipLineBlanks cs with
  | '\'' :: rest => (untilQuote '\'' rest).map fun r => (decode plainEscape? r.1, r.2)
  | '"' :: rest => (untilQuote '"' rest).map fun r => (decode escape? r.1, r.2)
  | _ => some (strip (uncommented (cs.takeWhile (· != '\n'))), cs.dropWhile (· != '\n'))

/-- Without a comment, if one starts here. -/
def skipComment (cs : List Char) : List Char :=
  match skipLineBlanks cs with
  | '#' :: rest => rest.dropWhile (· != '\n')
  | _ => cs

/-- What follows the end of a line, if nothing else stands before it. -/
def lineEnd? (cs : List Char) : Option (List Char) :=
  match skipLineBlanks cs with
  | [] => some []
  | '\n' :: rest => some rest
  | _ => none

/-- A name and its value, if it has one. -/
abbrev Binding := String × Option String

/-- What reading a binding came to: the binding, if the line holds one, and where to go on. A line that
cannot be read says where it failed. -/
inductive Step where
  | read (binding? : Option Binding) (rest : List Char)
  | failed (rest : List Char)

/-- The binding with a value, provided that nothing else stands on its line. -/
def close (name? value? : Option (List Char)) (rest : List Char) : Step :=
  match lineEnd? rest with
  | some rest => .read (name?.map fun name => (String.ofList name, value?.map String.ofList)) rest
  | none => .failed rest

/-- The binding whose name has been read. -/
def finish (name? : Option (List Char)) (cs : List Char) : Step :=
  match skipLineBlanks cs with
  | '=' :: rest =>
    match value? rest with
    | none => .failed (skipLineBlanks rest)
    | some (value, rest) => close name? (some value) (skipComment rest)
  | rest => close name? none (skipComment rest)

/-- Read one binding, or a line without one. -/
def step (cs : List Char) : Step :=
  match skipExport (cs.dropWhile isBlank) with
  | [] => if (cs.dropWhile isBlank).isEmpty then .read none [] else .failed []
  | '#' :: rest => finish none ('#' :: rest)
  | cs => match name? cs with
    | none => .failed cs
    | some (name, rest) => finish (some name) rest

/-- What follows this line. -/
def nextLine (cs : List Char) : List Char := (cs.dropWhile (· != '\n')).drop 1

/-- The bindings in a text, read in at most `rounds` rounds. -/
def bindings : Nat → List Char → List Binding
  | 0, _ => []
  | _ + 1, [] => []
  | rounds + 1, cs =>
    match step cs with
    | .read (some b) rest => b :: bindings rounds rest
    | .read none rest => bindings rounds rest
    | .failed rest => bindings rounds (nextLine rest)

/-- The bindings in a text, in their order; the mark of the byte order is not part of it. -/
def parse (text : String) : List Binding :=
  let cs := unifyLineEnds text.toList
  let cs := match cs with
    | '\ufeff' :: rest => rest
    | cs => cs
  bindings (cs.length + 1) cs

/-! ## References -/

/-- A reference to a variable: its name, what stands for it where it is not known, and how long the
reference is. It reads `$`, and between braces the name, perhaps with `:-` and a text after it. -/
def reference? : List Char → Option (String × List Char × Nat)
  | '$' :: '\x7b' :: rest =>
    let name := rest.takeWhile fun c => c != '\x7d' && c != ':'
    match rest.drop name.length with
    | '\x7d' :: _ => some (String.ofList name, [], name.length + 3)
    | ':' :: '-' :: rest =>
      let default := rest.takeWhile (· != '\x7d')
      if default.length < rest.length then some (String.ofList name, default, name.length + default.length + 5)
      else none
    | _ => none
  | _ => none

/-- Put the values of variables in the place of references, after some characters that are passed over. -/
def expand (known : String → Option String) : Nat → List Char → List Char
  | _, [] => []
  | skip + 1, _ :: rest => expand known skip rest
  | 0, c :: rest =>
    match reference? (c :: rest) with
    | some (name, default, length) =>
      (((known name).map String.toList).getD default) ++ expand known (length - 1) rest
    | none => c :: expand known 0 rest

/-- What is known of a variable: its value in the environment, or else the one that has been bound. A name
that has been bound to nothing stands for an empty text. -/
def known (environment : Variables) (bound : List Binding) (name : String) : Option String :=
  (environment.lookup name).or ((bound.lookup name).map (·.getD ""))

/-- The variables that bindings bind in an environment: the latest binding of each name. -/
def resolve (environment : Variables) (bindings : List Binding) : List Binding :=
  bindings.foldl (fun bound b =>
    Table.put bound b.1 (b.2.map fun value =>
      String.ofList (expand (known environment bound) 0 value.toList))) []

example : resolve [("A", "1")] [("B", some "$\x7bA\x7d-$\x7bC:-2\x7d-$A")] = [("B", some "1-2-$A")] := by decide

/-! ## Loading -/

/-- Set variables one after another, except those that are set already. -/
def applyBindings : List Binding → Variables → Except Fault Unit × Variables
  | [], environment => (.ok (), environment)
  | (name, value?) :: rest, environment =>
    match value?, environment.lookup name with
    | some value, none =>
      match bindingFault? name value with
      | some fault => (.error fault, environment)
      | none => applyBindings rest (Table.put environment name value)
    | _, _ => applyBindings rest environment

/-- The value that a binding gives a variable, if it is one of that name and has a value. -/
def Binding.valueFor? (name : String) (b : Binding) : Option String :=
  if b.1 = name then b.2 else none

/-- The value that bindings give a variable. -/
def offer (bindings : List Binding) (name : String) : Option String :=
  bindings.findSome? (·.valueFor? name)

variable {environment : Variables} {b : Binding} {bindings : List Binding} {name value : String}

private theorem offer_cons (b : Binding) (bindings : List Binding) :
    offer (b :: bindings) = fun name => (b.valueFor? name).or (offer bindings name) := by
  funext name
  rw [offer, List.findSome?_cons]
  cases b.valueFor? name <;> rfl

/-- A binding without a value, or of a variable that is set, does nothing. -/
theorem applyBindings_cons_of_set (set : b.2.isSome = true → (environment.lookup b.1).isSome = true) :
    applyBindings (b :: bindings) environment = applyBindings bindings environment := by
  obtain ⟨name, value?⟩ := b
  cases value? with
  | none => rfl
  | some value =>
    obtain ⟨old, found⟩ := Option.isSome_iff_exists.mp (set rfl)
    simp [applyBindings, found]

/-- A binding of a variable that is not set sets it, or fails. -/
theorem applyBindings_cons_of_gap (gap : environment.lookup name = none) :
    applyBindings ((name, some value) :: bindings) environment = match bindingFault? name value with
      | some fault => (.error fault, environment)
      | none => applyBindings bindings (Table.put environment name value) := by
  simp only [applyBindings, gap]

private theorem fill_applyBindings (bindings : List Binding) (environment : Variables) :
    Fill (offer bindings) environment (applyBindings bindings environment) := by
  induction bindings generalizing environment with
  | nil => exact .idle nofun
  | cons b bindings ih =>
    obtain ⟨key, value?⟩ := b
    rw [offer_cons]
    by_cases set : value?.isSome = true → (environment.lookup key).isSome = true
    · rw [applyBindings_cons_of_set set]
      refine (Fill.idle fun name offered => ?_).andThen (ih environment)
      unfold Binding.valueFor? at offered
      split at offered
      · next here =>
        cases here
        exact set offered
      · cases offered
    · obtain ⟨isGiven, gap⟩ := Classical.not_imp.mp set
      obtain ⟨value, rfl⟩ := Option.isSome_iff_exists.mp isGiven
      have gap : environment.lookup key = none := Option.not_isSome_iff_eq_none.mp gap
      rw [applyBindings_cons_of_gap gap]
      cases allowed : bindingFault? key value with
      | some fault => exact (Fill.refused gap (if_pos rfl) allowed).cutShort _
      | none => exact (Fill.put gap allowed fun _ => rfl).andThen (ih _)

private theorem applyBindings_of_set
    (set : ∀ name, (offer bindings name).isSome = true → (environment.lookup name).isSome = true) :
    applyBindings bindings environment = (.ok (), environment) := by
  induction bindings with
  | nil => rfl
  | cons b bindings ih =>
    rw [offer_cons] at set
    have first (given : b.2.isSome = true) : (environment.lookup b.1).isSome = true := by
      refine set b.1 ?_
      rw [Option.isSome_or, Binding.valueFor?, if_pos rfl, given, Bool.true_or]
    rw [applyBindings_cons_of_set first]
    exact ih fun name offered => set name (by rw [Option.isSome_or, offered, Bool.or_true])

/-- Which names are bound, and which of them have a value. -/
def outline (bindings : List Binding) : List (String × Bool) := bindings.map fun b => (b.1, b.2.isSome)

private theorem outline_resolve (environment environment' : Variables) (bindings : List Binding) :
    outline (resolve environment bindings) = outline (resolve environment' bindings) := by
  have step_by_step (bound bound' : List Binding) (same : outline bound = outline bound') :
      outline (bindings.foldl (fun bound b => Table.put bound b.1 (b.2.map fun value =>
        String.ofList (expand (known environment bound) 0 value.toList))) bound) =
      outline (bindings.foldl (fun bound b => Table.put bound b.1 (b.2.map fun value =>
        String.ofList (expand (known environment' bound) 0 value.toList))) bound') := by
    induction bindings generalizing bound bound' with
    | nil => exact same
    | cons b bindings ih =>
      refine ih _ _ ?_
      have put (bound : List Binding) (value? : Option String) :
          outline (Table.put bound b.1 value?) = Table.put (outline bound) b.1 value?.isSome :=
        Table.map_put _ _ _ _
      rw [put, put, same]
      simp
  exact step_by_step [] [] rfl

private theorem isSome_offer {bindings : List Binding} {name : String} :
    (offer bindings name).isSome = true ↔ (name, true) ∈ outline bindings := by
  simp only [offer, List.findSome?_isSome_iff, outline, List.mem_map, Prod.mk.injEq]
  refine exists_congr fun b => and_congr_right fun _ => ?_
  rw [Binding.valueFor?]
  by_cases here : b.1 = name
  · simp [here]
  · simp [here]

/-- Load files of variables that are written like this. -/
def loader : Loader where
  value? text environment := offer (resolve environment (parse text))
  load text environment := applyBindings (resolve environment (parse text)) environment
  isSome_value? text environment environment' name := by
    rw [Bool.eq_iff_iff, isSome_offer, isSome_offer, outline_resolve environment environment']
  fill _ environment := fill_applyBindings _ environment
  load_of_set _ _ set := applyBindings_of_set set

end HostBridge.Config.VariablesFile
