import HostBridge.Value.Text
import HostBridge.Text.Word

/-!
# Reading and printing forms

Source text is cut into tokens; the first form of the tokens is read. Collections in round, square and
curly brackets nest; everything else is an atom. What reading takes apart, printing puts together.
-/

namespace HostBridge.Memory

/-- A token. -/
inductive Token where
  | opener (kind : CollKind)
  | closer (kind : CollKind)
  /-- A quoted text, as written between its quotes. -/
  | quoted (body : List Char)
  | atom (name : List Char)
deriving DecidableEq, Repr

namespace Token

/-- The bracket that opens a collection. -/
def openBracket : CollKind → Char
  | .list => '('
  | .vector => '['
  | .map => '\x7b'

/-- The bracket that closes a collection. -/
def closeBracket : CollKind → Char
  | .list => ')'
  | .vector => ']'
  | .map => '\x7d'

/-- The kinds of collections. -/
def kinds : List CollKind := [.list, .vector, .map]

/-- A bracket as a token. -/
def bracket? (c : Char) : Option Token :=
  match kinds.find? (openBracket · == c) with
  | some kind => some (.opener kind)
  | none => (kinds.find? (closeBracket · == c)).map .closer

/-- May the character stand in an atom? -/
def isAtomChar (c : Char) : Bool :=
  !(Text.isBlank c || c == ',' || c == '"' || (bracket? c).isSome)

/-- What stands before the closing quote, and what follows it. A backslash takes the next character with
it, which may not be a line feed. -/
def untilQuote : List Char → Option (List Char × List Char)
  | [] => none
  | '"' :: rest => some ([], rest)
  | '\\' :: rest => match rest with
    | [] => none
    | c :: rest =>
      if c = '\n' then none else (untilQuote rest).map fun r => ('\\' :: c :: r.1, r.2)
  | c :: rest => (untilQuote rest).map fun r => (c :: r.1, r.2)

/-- The tokens of a text, found in at most `rounds` rounds. A quote that nothing closes is passed over. -/
def scan : Nat → List Char → List Token
  | 0, _ => []
  | _ + 1, [] => []
  | rounds + 1, c :: rest =>
    match bracket? c with
    | some token => token :: scan rounds rest
    | none =>
      if c = '"' then
        match untilQuote rest with
        | some (body, rest) => .quoted body :: scan rounds rest
        | none => scan rounds rest
      else if isAtomChar c then
        .atom (c :: rest.takeWhile isAtomChar) :: scan rounds (rest.dropWhile isAtomChar)
      else scan rounds rest

/-- The tokens of a text. -/
def ofText (text : List Char) : List Token := scan text.length text

end Token

/-- Why no form could be read. -/
inductive ReadFault where
  | endOfText
  | unmatched (closer : Char)
  /-- An integer has too many digits. -/
  | tooLong (digits : Nat)
deriving DecidableEq, Repr

/-- A fault as its reader reports it: what is wrong with the text is `thrown`, an integer that cannot be read
is not. -/
def ReadFault.report (thrown : String → Fault) : ReadFault → Fault
  | .endOfText => thrown "EOF while reading"
  | .unmatched c => thrown ("Unmatched delimiter: " ++ String.singleton c)
  | .tooLong digits => tooLongToRead digits

namespace Form

/-- The digits of an integer and whether it is negative: digits, perhaps after a minus sign. -/
def integer? (name : List Char) : Option (Bool × List Char) :=
  let (negative, ds) := match name with
    | '-' :: ds => (true, ds)
    | ds => (false, ds)
  if ds.isEmpty || !ds.all fun c => (Text.digitValue? c).isSome then none else some (negative, ds)

/-- The value of an atom. -/
def ofAtom (name : List Char) : Except ReadFault Value :=
  match integer? name with
  | some (negative, ds) =>
    if digitLimit < ds.length then .error (.tooLong ds.length)
    else
      let n : Int := Text.digitsValue ds
      .ok (.int (if negative then -n else n))
  | none =>
    if name = "nil".toList then .ok .nil
    else if name = "true".toList then .ok (.bool true)
    else if name = "false".toList then .ok (.bool false)
    else match name with
      | ':' :: rest => .ok (.keyword (String.ofList rest))
      | _ => .ok (.symbol (String.ofList name))

/-- The text between quotes: an escaped quote stands for the quote, other backslashes for themselves. -/
def unquote : List Char → List Char
  | '\\' :: '"' :: rest => '"' :: unquote rest
  | c :: rest => c :: unquote rest
  | [] => []

/-- A collection that has been opened, with its items so far, latest first. -/
structure Open where
  /-- The kind. -/
  kind : CollKind
  /-- The items. -/
  items : List Value

/-- Read a form whose collections `stack` are open, innermost first. -/
def read : List Open → List Token → Except ReadFault Value
  | _, [] => .error .endOfText
  | stack, .opener kind :: rest => read (⟨kind, []⟩ :: stack) rest
  | [], .closer kind :: _ => .error (.unmatched (Token.closeBracket kind))
  | o :: stack, .closer kind :: rest =>
    if o.kind = kind then
      let v := Value.coll kind o.items.reverse
      match stack with
      | [] => .ok v
      | p :: stack => read (⟨p.kind, v :: p.items⟩ :: stack) rest
    else .error (.unmatched (Token.closeBracket kind))
  | [], .quoted body :: _ => .ok (.text (String.ofList (unquote body)))
  | o :: stack, .quoted body :: rest =>
    read (⟨o.kind, .text (String.ofList (unquote body)) :: o.items⟩ :: stack) rest
  | stack, .atom name :: rest =>
    match ofAtom name with
    | .error fault => .error fault
    | .ok v => match stack with
      | [] => .ok v
      | o :: stack => read (⟨o.kind, v :: o.items⟩ :: stack) rest

/-- Read the first form of a text. -/
def ofText (text : String) : Except ReadFault Value := read [] (Token.ofText text.toList)

end Form

/-! ## Printing -/

/-- A text between quotes. Only quotes are escaped. -/
def quoted (s : String) : String :=
  String.ofList ('"' :: s.toList.flatMap (fun c => if c = '"' then ['\\', '"'] else [c]) ++ ['"'])

mutual

/-- The readable text of a value. -/
def printed (view : View) : Value → String
  | .nil => "nil"
  | .bool b => if b then "true" else "false"
  | .text s | .derived _ (.text s) => quoted s
  | .symbol name => name
  | .keyword name => ":" ++ name
  | .coll kind items =>
    String.singleton (Token.openBracket kind) ++ " ".intercalate (allPrinted view items) ++
      String.singleton (Token.closeBracket kind)
  | .list items | .tuple items => "(" ++ " ".intercalate (allPrinted view items) ++ ")"
  | v => v.display view

/-- The readable texts of several values. -/
def allPrinted (view : View) : List Value → List String
  | [] => []
  | v :: rest => printed view v :: allPrinted view rest

end

mutual

/-- Has the readable text of a value an integer with too many digits? -/
def printsLongInteger : Value → Bool
  | .coll _ items | .list items | .tuple items => anyPrintsLongInteger items
  | v => v.displaysLongInteger

/-- Has one of several readable texts such an integer? -/
def anyPrintsLongInteger : List Value → Bool
  | [] => false
  | v :: rest => printsLongInteger v || anyPrintsLongInteger rest

end

/-- The readable text of a value, unless it has an integer with too many digits. -/
def print (view : View) (v : Value) : Except Fault String :=
  if printsLongInteger v then .error tooLongToShow else .ok (printed view v)

end HostBridge.Memory
