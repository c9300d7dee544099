import HostBridge.Fault
import HostBridge.Text.Quoted
import HostBridge.Value

/-!
# Texts and parts of values

A value has two texts. The displayed text is what a message shows; the literal text tells a text from a
number by quoting it, and is used for the parts of a container. They differ only for texts. Some values have
parts that can be taken one by one.
-/

namespace HostBridge

namespace Primitive

/-- The literal text of a primitive. -/
def literal : Primitive → String
  | .nil => "None"
  | .bool true => "True"
  | .bool false => "False"
  | .int n => toString n
  | .float x => x.text
  | .text s => Text.quote s

/-- The displayed text of a primitive: texts show themselves. -/
def display : Primitive → String
  | .text s => s
  | p => p.literal

end Primitive

/-- What each opaque value owns: `none` once it is released. -/
abbrev OpaqueView := OpaqueId → Option Value

/-- What the texts of values depend on. -/
structure View where
  /-- What each opaque value owns. -/
  owned : OpaqueView
  /-- The next number of each counter. -/
  counter : Nat → Nat

/-- A view in which nothing is owned, for values that hold no opaque ones. -/
def View.blank : View := ⟨fun _ => none, fun _ => 0⟩

/-- The text of an opaque value: the kind of what it owns, never the thing itself. -/
def OpaqueId.literal (view : View) (id : OpaqueId) : String :=
  match view.owned id with
  | none => "OpaqueValue(<released>)"
  | some .nil => "OpaqueValue(nil)"
  | some v => s!"OpaqueValue(<{v.typeName}>)"

/-- The text of a call argument. -/
def Argument.literal (view : View) : Argument → String
  | .primitive s _ => s!"InvocationArg({s.primitive.literal})"
  | .reference id => s!"InvocationArg({id.literal view})"

/-- The name a callable is known by: qualified if it was found in a namespace. -/
def Callable.qualifiedName (f : Callable) : String :=
  match f.name? with
  | none => "<fn>"
  | some name => match f.scope? with
    | some ns => if ns.isEmpty then name else ns ++ "/" ++ name
    | none => name

/-- The text of a callable. -/
def Callable.literal (f : Callable) : String :=
  s!"IFn({f.qualifiedName})"

/-- The text of a namespace handle. -/
def namespaceHandleLiteral (name : String) : String :=
  s!"CljNs({Text.quote name})"

/-- The text of the root context. -/
def coreLiteral : String := "CljCore()"

/-- How many digits an integer may have in a text. -/
def digitLimit : Nat := 4300

/-- Is it an integer with too many digits to be shown? -/
def Primitive.exceedsDigits : Primitive → Bool
  | .int n => Number.tenTo digitLimit ≤ n.natAbs
  | _ => false

/-- The fault of showing an integer with too many digits. -/
def tooLongToShow : Fault :=
  .standard .value ("Exceeds the limit (4300 digits) for integer string conversion; " ++
    "use sys.set_int_max_str_digits() to increase the limit")

/-- The fault of reading an integer with too many digits. -/
def tooLongToRead (digits : Nat) : Fault :=
  .standard .value (s!"Exceeds the limit (4300 digits) for integer string conversion: value has {digits} " ++
    "digits; use sys.set_int_max_str_digits() to increase the limit")

/-- The fault of an integer that is out of range, with the message around it. If the integer cannot be shown,
that is the fault instead. -/
def Primitive.outOfRange (p : Primitive) (opening complaint : String) : Fault :=
  if p.exceedsDigits then tooLongToShow else .standard .overflow (opening ++ p.literal ++ complaint)

namespace Value

mutual

/-- The literal text of a value. -/
def literal (view : View) : Value → String
  | .prim p => p.literal
  | .derived _ base => base.primitive.literal
  | .bytes data => Text.quoteBytes data
  | .list items => "[" ++ ", ".intercalate (literals view items) ++ "]"
  | .tuple [item] => "(" ++ literal view item ++ ",)"
  | .tuple items => "(" ++ ", ".intercalate (literals view items) ++ ")"
  | .dict entries => "\x7b" ++ ", ".intercalate (entryLiterals view entries) ++ "\x7d"
  | .set [] => "set()"
  | .set items => "\x7b" ++ ", ".intercalate (literals view items) ++ "\x7d"
  | .date d => d.literal
  | .dateTime t => t.literal
  | .counter id => s!"count({view.counter id})"
  | .javaClass name => "<java class '" ++ name ++ "'>"
  | .javaObject className _ => "<java object '" ++ className ++ "'>"
  | .owner id => id.literal view
  | .callable f => f.literal
  | .argument a => a.literal view
  | .namespaceHandle name => namespaceHandleLiteral name
  | .core => coreLiteral
  | v => "<" ++ v.typeName ++ " object>"

/-- The literal texts of several values. -/
def literals (view : View) : List Value → List String
  | [] => []
  | v :: rest => literal view v :: literals view rest

/-- The literal texts of the entries of a dictionary. -/
def entryLiterals (view : View) : List (Value × Value) → List String
  | [] => []
  | (k, v) :: rest => (literal view k ++ ": " ++ literal view v) :: entryLiterals view rest

end

/-- The displayed text of a value. An object of a virtual machine shows what it holds. -/
def display (view : View) : Value → String
  | .prim p => p.display
  | .derived _ base => base.primitive.display
  | .date d => d.display
  | .dateTime t => t.display
  | .javaObject _ payload => display view payload
  | v => v.literal view

/-- Is it an integer, of whatever class, with too many digits to be shown? -/
def exceedsDigits (v : Value) : Bool :=
  match v.plain with
  | .prim p => p.exceedsDigits
  | _ => false

mutual

/-- Has the literal text of a value an integer with too many digits? -/
def showsLongInteger : Value → Bool
  | .prim p => p.exceedsDigits
  | .derived _ base => base.primitive.exceedsDigits
  | .list items | .tuple items | .set items => anyShowsLongInteger items
  | .dict entries => anyEntryShowsLongInteger entries
  | _ => false

/-- Has one of several literal texts such an integer? -/
def anyShowsLongInteger : List Value → Bool
  | [] => false
  | v :: rest => showsLongInteger v || anyShowsLongInteger rest

/-- Has one of the literal texts of several entries such an integer? -/
def anyEntryShowsLongInteger : List (Value × Value) → Bool
  | [] => false
  | (k, v) :: rest => showsLongInteger k || showsLongInteger v || anyEntryShowsLongInteger rest

end

/-- Has the displayed text of a value such an integer? -/
def displaysLongInteger : Value → Bool
  | .javaObject _ payload => displaysLongInteger payload
  | v => v.showsLongInteger

/-- The displayed text of a value that holds no opaque ones. It fails for integers with too many digits. -/
def shown (v : Value) : Except Fault String :=
  if v.displaysLongInteger then .error tooLongToShow else .ok (v.display View.blank)

/-- The literal text of a value that holds no opaque ones. It fails for such integers, too. -/
def spelledOut (v : Value) : Except Fault String :=
  if v.showsLongInteger then .error tooLongToShow else .ok (v.literal View.blank)

/-- A text shows itself, whatever its class. -/
theorem display_of_text {v : Value} {s : String} (isText : v.plain = .text s) (view : View) :
    v.display view = s := by
  cases v with
  | prim p =>
    cases isText
    rfl
  | derived className base =>
    cases base <;> cases isText
    rfl
  | _ => cases isText

/-- A text can always be shown. -/
theorem shown_of_text {v : Value} {s : String} (isText : v.plain = .text s) : v.shown = .ok s := by
  rw [shown, display_of_text isText, if_neg]
  cases v with
  | prim p =>
    cases isText
    exact Bool.false_ne_true
  | derived className base =>
    cases base <;> cases isText
    exact Bool.false_ne_true
  | _ => cases isText

/-! ### Parts -/

/-- What a value yields when its parts are taken one by one; a mapping yields its keys. -/
def items? (v : Value) : Option (List Value) :=
  match v.plain with
  | .list items | .tuple items | .set items | .coll _ items => some items
  | .dict entries => some (entries.map (·.1))
  | .bytes data => some (data.map fun b => .int b.toNat)
  | .text s => some (s.toList.map fun c => .text (String.singleton c))
  | _ => none

/-- The fault of taking the parts of a value that has none. -/
def notIterable (v : Value) : Fault :=
  .misuse .type ("'" ++ v.typeName ++ "' object is not iterable")

/-- The fault of asking a value for an attribute that it has not. -/
def lacks (v : Value) (name : String) : Fault :=
  .misuse .absentAttribute
    ("'" ++ v.typeName ++ "' object has no attribute '" ++ name ++ "'")

end Value

end HostBridge
