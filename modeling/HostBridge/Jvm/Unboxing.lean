import HostBridge.Jvm.Interface
import HostBridge.Text.Template
import HostBridge.Text.Numeral
import HostBridge.Value.Text

/-!
# Primitives in boxes

The classes whose objects stand for primitives, and how the primitive is taken out of each. What a box
answers is converted to the primitive's own kind.
-/

namespace HostBridge.Jvm

open Number (Binary64)

/-- The kinds of boxes. -/
inductive BoxKind where
  | text
  | bool
  | int
  | float
deriving DecidableEq, Repr

/-- The classes of boxes, in the order in which they are tried. -/
def boxClasses : List (String × BoxKind) :=
  [("java.lang.String", .text), ("java.lang.Boolean", .bool), ("java.lang.Long", .int),
    ("java.lang.Integer", .int), ("java.lang.Short", .int), ("java.lang.Byte", .int),
    ("java.lang.Double", .float), ("java.lang.Float", .float)]

/-- Is the value an object of the class? -/
def isInstance : Value → Value → Bool
  | .javaObject c _, .javaClass name => c == name
  | _, _ => false

/-- The beginning of a text. -/
def cut (length : Nat) (s : String) : String := String.ofList (s.toList.take length)

/-- The integer that a text spells; `shown` is the text as messages give it. -/
def spelledInteger (cs : List Char) (shown : String) : Except Fault Value :=
  match Text.Numeral.integer 10 digitLimit cs with
  | .integer n => .ok (.int n)
  | .tooLong digits => .error (tooLongToRead digits)
  | .noInteger =>
    .error (.standard .value ("invalid literal for int() with base 10: " ++ cut 200 shown))

/-- The floating-point number that a text spells; `shown` is the text as messages give it. -/
def spelledFloat (cs : List Char) (shown : String) : Except Fault Value :=
  match Text.Numeral.float? cs with
  | some x => .ok (.float x)
  | none => .error (.standard .value ("could not convert string to float: " ++ shown))

/-- Bytes as characters. What is beyond ASCII spells no number. -/
def characters (data : List UInt8) : List Char :=
  data.map fun b => if b.toNat < 0x80 then Char.ofNat b.toNat else '?'

/-- A value as an integer. -/
def asInteger (v : Value) : Except Fault Value :=
  match v.plain with
  | .text s => spelledInteger s.toList (Text.quote s)
  | .bytes data => spelledInteger (characters data) (Text.quoteBytes data)
  | .int _ | .bool _ | .float _ => (Text.Template.wholeNumber v).map Value.int
  | _ => .error (.misuse .type ("int() argument must be a string, a bytes-like object or a real number, "
      ++ "not '" ++ v.typeName ++ "'"))

/-- A value as a floating-point number. -/
def asFloat (v : Value) : Except Fault Value :=
  match v.plain with
  | .text s => spelledFloat s.toList (Text.quote s)
  | .bytes data => spelledFloat (characters data) (Text.quoteBytes data)
  | .int _ | .bool _ | .float _ => (Text.Template.realNumber v).map Value.float
  | _ => .error (.misuse .type
      ("float() argument must be a string or a real number, not '" ++ v.typeName ++ "'"))

variable {ω : Type}

/-- Take the primitive out of a box. -/
def takeOut (jvm : Interface ω) (ref : Value) : BoxKind → Hosted ω Value
  | .text => return .text (← jvm.display ref)
  | .bool => return .bool (← jvm.callMethod ref "booleanValue" []).truthy
  | .int => do MonadExcept.ofExcept (asInteger (← jvm.callMethod ref "longValue" []))
  | .float => do MonadExcept.ofExcept (asFloat (← jvm.callMethod ref "doubleValue" []))

/-- Try the classes of boxes one after another. -/
def unboxWith (jvm : Interface ω) (ref : Value) : List (String × BoxKind) → Hosted ω Value
  | [] => do
    let c ← jvm.callMethod ref "getClass" []
    let name ← jvm.callMethod c "getName" []
    throw (.plain .marshalling ("No primitive conversion for " ++ (← jvm.display name)))
  | (name, kind) :: rest => do
    let c ← jvm.findClass name
    if isInstance ref c then takeOut jvm ref kind else unboxWith jvm ref rest

/-- Turn an object into a primitive (`unbox`). Primitives stay as they are, but not the objects of derived classes. -/
def unbox (jvm : Interface ω) (ref : Value) : Hosted ω Value :=
  match ref with
  | .prim p => return .prim p
  | ref => unboxWith jvm ref boxClasses

end HostBridge.Jvm
