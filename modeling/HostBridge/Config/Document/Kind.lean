import HostBridge.Time.Date

/-!
# Kinds of nodes

Each node of a document has a kind. A tag names it; without one it follows from the place of the node, or
for a plain text from its spelling alone: the absent value, truth values, numbers, instants, and two marks
that mean something as keys.
-/

namespace HostBridge.Config.Document

/-- What a node holds. -/
inductive Kind where
  | absent
  | truth
  | integer
  | float
  /-- A date, perhaps with a time of day. -/
  | instant
  | text
  | binary
  /-- As a key: the entries of the value belong to this mapping too. -/
  | merge
  /-- As a key: the value stands for the whole mapping where a text is wanted. -/
  | standIn
  | row
  | mapping
  | set
  /-- A row of mappings with one entry each, whose order matters. -/
  | ordered
  /-- A row of mappings with one entry each. -/
  | pairs
  /-- A kind that is not known. -/
  | unknown
deriving DecidableEq, Repr, Inhabited

/-- The beginning of the tags of the known kinds. -/
def commonTag : String := "tag:yaml.org,2002:"

/-- The tags of the known kinds, without their beginning. -/
def knownTags : List (String × Kind) :=
  [("null", .absent), ("bool", .truth), ("int", .integer), ("float", .float), ("timestamp", .instant),
    ("str", .text), ("binary", .binary), ("merge", .merge), ("value", .standIn), ("seq", .row),
    ("map", .mapping), ("set", .set), ("omap", .ordered), ("pairs", .pairs)]

/-- The kind that a tag names. -/
def Kind.ofTag (tag : String) : Kind :=
  ((knownTags.find? fun e => commonTag ++ e.1 == tag).map (·.2)).getD .unknown

/-! ## Spellings of numbers -/

/-- A digit, or an underscore, which may be put between digits. -/
def isJoinedDigit (c : Char) : Bool := c.isDigit || c == '_'

/-- Without a sign. -/
def unsigned : List Char → List Char
  | '-' :: rest | '+' :: rest => rest
  | cs => cs

/-- A row of joined digits that starts with a digit. -/
def isWhole : List Char → Bool
  | [] => false
  | c :: rest => c.isDigit && rest.all isJoinedDigit

/-- Split at colons; there is always at least one piece. -/
def fields : List Char → List (List Char)
  | [] => [[]]
  | ':' :: rest => [] :: fields rest
  | c :: rest => match fields rest with
    | [] => [[c]]
    | field :: others => (c :: field) :: others

/-- A later field of a number in base sixty: one or two digits, below sixty. -/
def isSixtieth : List Char → Bool
  | [a] => a.isDigit
  | [a, b] => '0' ≤ a && a ≤ '5' && b.isDigit
  | _ => false

/-- Is this an integer: binary, hexadecimal, octal (a leading zero), decimal, or in base sixty with colons? -/
def isInteger (cs : List Char) : Bool :=
  match unsigned cs with
  | ['0'] => true
  | '0' :: 'b' :: rest => !rest.isEmpty && rest.all fun c => c == '0' || c == '1' || c == '_'
  | '0' :: 'x' :: rest => !rest.isEmpty && rest.all fun c =>
      isJoinedDigit c || ('a' ≤ c && c ≤ 'f') || ('A' ≤ c && c ≤ 'F')
  | '0' :: rest => !rest.isEmpty && rest.all fun c => ('0' ≤ c && c ≤ '7') || c == '_'
  | body => match fields body with
    | whole :: later => isWhole whole && later.all isSixtieth
    | [] => false

/-- The exponent that may end a number: a letter, a sign and digits. -/
def isExponent : List Char → Bool
  | [] => true
  | e :: s :: rest => (e == 'e' || e == 'E') && (s == '-' || s == '+') && !rest.isEmpty && rest.all Char.isDigit
  | _ => false

/-- Is this a floating-point number? Its point is what tells it from an integer. -/
def isFloat (cs : List Char) : Bool :=
  let body := unsigned cs
  [".inf", ".Inf", ".INF"].contains (String.ofList body) ||
  [".nan", ".NaN", ".NAN"].contains (String.ofList cs) ||
  match body.dropWhile (· != '.') with
  | [] => false
  | _ :: places =>
    let rest := places.dropWhile isJoinedDigit
    match fields (body.takeWhile (· != '.')) with
    | [[]] => cs.head? == some '.' && places.head?.any Char.isDigit && isExponent rest
    | [whole] => isWhole whole && isExponent rest
    | whole :: later => isWhole whole && later.all isSixtieth && rest.isEmpty
    | [] => false

/-! ## Spellings of instants -/

/-- A row of digits whose length lies between two bounds, and what follows it. -/
def digitRun (least most : Nat) (cs : List Char) : Option (List Char × List Char) :=
  let ds := cs.takeWhile Char.isDigit
  if least ≤ ds.length ∧ ds.length ≤ most then some (ds, cs.dropWhile Char.isDigit) else none

/-- What follows a character, if it stands here. -/
def after (c : Char) : List Char → Option (List Char)
  | [] => none
  | d :: rest => if c = d then some rest else none

/-- The number that digits spell. -/
def number (ds : List Char) : Nat := ds.foldl (fun n d => 10 * n + (d.toNat - '0'.toNat)) 0

/-- A distance from universal time in minutes, or none at all. -/
def offset? (cs : List Char) : Option (Option Int) :=
  match cs.dropWhile fun c => c == ' ' || c == '\t' with
  | [] => if cs.isEmpty then some none else none
  | ['Z'] => some (some 0)
  | s :: rest =>
    if s == '-' || s == '+' then do
      let (hours, rest) ← digitRun 1 2 rest
      let minutes ← match rest with
        | [] => some 0
        | rest => do
          let (minutes, rest) ← digitRun 2 2 (← after ':' rest)
          if rest.isEmpty then some (number minutes) else none
      let n : Int := number hours * 60 + minutes
      return some (if s = '-' then -n else n)
    else none

/-- The time of day after a date, if one follows. -/
def timeOfDay? (date : Time.Date) (cs : List Char) : Option Time.DateTime := do
  let cs ← match cs with
    | c :: rest =>
      if c == 'T' || c == 't' then some rest
      else if c == ' ' || c == '\t' then some (rest.dropWhile fun d => d == ' ' || d == '\t')
      else none
    | [] => none
  let (hour, cs) ← digitRun 1 2 cs
  let (minute, cs) ← digitRun 2 2 (← after ':' cs)
  let (second, cs) ← digitRun 2 2 (← after ':' cs)
  let (fraction, cs) := match cs with
    | '.' :: rest => (rest.takeWhile Char.isDigit, rest.dropWhile Char.isDigit)
    | cs => ([], cs)
  let micro := number ((fraction ++ List.replicate 6 '0').take 6)
  return { date, hour := number hour, minute := number minute, second := number second, micro
           offset? := ← offset? cs }

/-- A date, and the time of day after it if there is one. -/
def instant? (cs : List Char) : Option (Time.Date × Option Time.DateTime) := do
  let (year, cs) ← digitRun 4 4 cs
  let (month, cs) ← digitRun 1 2 (← after '-' cs)
  let (day, cs) ← digitRun 1 2 (← after '-' cs)
  let date : Time.Date := { year := number year, month := number month, day := number day }
  if cs.isEmpty then return (date, none) else return (date, some (← timeOfDay? date cs))

/-- Is this an instant? A date alone has two digits for the month and for the day. -/
def isInstant (cs : List Char) : Bool :=
  match instant? cs with
  | some (_, none) => cs.length == 10
  | some (_, some _) => true
  | none => false

/-! ## The kind of a word -/

/-- Without the end of a line, if the word ends with one. -/
def withoutLineEnd (cs : List Char) : List Char :=
  if cs.getLast? = some '\n' ∧ 1 < cs.length then cs.dropLast else cs

/-- The kind that the spelling of a plain word implies. -/
def Kind.ofWord (cs : List Char) : Kind :=
  let cs := withoutLineEnd cs
  let word := String.ofList cs
  if ["yes", "Yes", "YES", "no", "No", "NO", "true", "True", "TRUE", "false", "False", "FALSE",
      "on", "On", "ON", "off", "Off", "OFF"].contains word then .truth
  else if isFloat cs then .float
  else if isInteger cs then .integer
  else if word = "<<" then .merge
  else if ["", "~", "null", "Null", "NULL"].contains word then .absent
  else if isInstant cs then .instant
  else if word = "=" then .standIn
  else .text

example : Kind.ofWord "0x1F".toList = .integer ∧ Kind.ofWord "190:20:30".toList = .integer := by decide
example : Kind.ofWord ".5".toList = .float ∧ Kind.ofWord "-.5".toList = .text := by decide
example : Kind.ofWord "2001-12-14".toList = .instant ∧ Kind.ofWord "2001-1-1".toList = .text := by decide

end HostBridge.Config.Document
