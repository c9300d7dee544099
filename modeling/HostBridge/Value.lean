import HostBridge.Number.Shortest
import HostBridge.Time.Date

/-!
# Values

Everything that flows between a caller, the bridge and a hosted runtime. Primitives cross the border by
value; the rest is handled by reference. Objects with an identity of their own carry a number or a name
that stands for it.
-/

namespace HostBridge

open Number (Binary64 twoTo)

/-- The values that have the same meaning on both sides of the bridge. -/
inductive Primitive where
  | nil
  | bool (b : Bool)
  | int (n : Int)
  | float (x : Binary64)
  | text (s : String)
deriving DecidableEq, Repr, Inhabited

namespace Primitive

/-- Smallest and largest integer that a call argument can hold. -/
def leastLong : Int := -(twoTo 63 : Int)

/-- Largest integer that a call argument can hold. -/
def greatestLong : Int := (twoTo 63 : Int) - 1

/-- Integers that cross the bridge have sixty-four bits; the other primitives always fit. -/
def FitsLong : Primitive → Prop
  | .int n => leastLong ≤ n ∧ n ≤ greatestLong
  | _ => True

instance (p : Primitive) : Decidable p.FitsLong := by
  cases p <;> unfold FitsLong <;> infer_instance

end Primitive

/-- What classes of a caller's own can be derived from: the classes of integers, floating-point numbers and
texts. -/
inductive Extensible where
  | int (n : Int)
  | float (x : Binary64)
  | text (s : String)
deriving DecidableEq, Repr, Inhabited

/-- The primitive with the same meaning. -/
def Extensible.primitive : Extensible → Primitive
  | .int n => .int n
  | .float x => .float x
  | .text s => .text s

/-- What is passed by value: a primitive, or an object of a class that is derived from that of a primitive and
changes nothing of it. -/
inductive Scalar where
  | plain (p : Primitive)
  | derived (className : String) (base : Extensible)
deriving DecidableEq, Repr, Inhabited

/-- The primitive that it is or has the meaning of. -/
def Scalar.primitive : Scalar → Primitive
  | .plain p => p
  | .derived _ base => base.primitive

/-- Identity of an opaque value. -/
structure OpaqueId where
  /-- Position in the table of opaque values. -/
  index : Nat
deriving DecidableEq, Repr, Inhabited

/-- Identity of a runtime handle. -/
structure HandleId where
  /-- Position in the table of handles. -/
  index : Nat
deriving DecidableEq, Repr, Inhabited

/-- A backend, known by its label. -/
structure BackendId where
  /-- The label. -/
  label : String
deriving DecidableEq, Repr, Inhabited

/-- A thread, known by its label; threads in one process have different labels. -/
structure ThreadId where
  /-- The label. -/
  label : String
deriving DecidableEq, Repr, Inhabited

/-- The thread that a process starts with. -/
def ThreadId.main : ThreadId := ⟨"MainThread"⟩

/-- A call argument: something that is passed by value and fits, or a reference to an opaque value. -/
inductive Argument where
  | primitive (s : Scalar) (fits : s.primitive.FitsLong)
  | reference (id : OpaqueId)
deriving DecidableEq, Repr

/-- A resolved function: the opaque value that owns it, and the name it was found under. -/
structure Callable where
  /-- The function object. -/
  inner : OpaqueId
  /-- The namespace it was found in. -/
  scope? : Option String
  /-- The name it was found under. -/
  name? : Option String
deriving DecidableEq, Repr

/-- The three kinds of read collections. -/
inductive CollKind where
  | list
  | vector
  | map
deriving DecidableEq, Repr

/-- The name of a kind of collection. -/
def CollKind.name : CollKind → String
  | .list => "list"
  | .vector => "vector"
  | .map => "map"

/-- The objects that the in-memory host offers at its surface. -/
inductive Fixture where
  | entry
  | symbolClass
  | namespaceClass
  | system
  | out
deriving DecidableEq, Repr

/-- Anything that can be passed, returned or owned. -/
inductive Value where
  | prim (p : Primitive)
  /-- An object of a class that is derived from that of a primitive and changes nothing of it. -/
  | derived (className : String) (base : Extensible)
  | bytes (data : List UInt8)
  | list (items : List Value)
  | tuple (items : List Value)
  | dict (entries : List (Value × Value))
  | set (items : List Value)
  | date (d : Time.Date)
  | dateTime (t : Time.DateTime)
  | object (id : Nat)
  | symbol (name : String)
  | keyword (name : String)
  | coll (kind : CollKind) (items : List Value)
  | var (ns name : String)
  | function (id : Nat) (label : String)
  | scope (name : String)
  | fixture (f : Fixture)
  | counter (id : Nat)
  | javaClass (name : String)
  | javaObject (className : String) (payload : Value)
  | javaMethod (ofObject : Bool) (className name : String)
  | owner (id : OpaqueId)
  | callable (f : Callable)
  | argument (a : Argument)
  | namespaceHandle (name : String)
  | core
  | handle (id : HandleId)
  | backend (id : BackendId)
  /-- An object of which only the kind matters. -/
  | other (kind : String) (id : Nat)
deriving Repr

namespace Value

/-- The absent value. -/
@[match_pattern] abbrev nil : Value := .prim .nil

/-- A truth value. -/
@[match_pattern] abbrev bool (b : Bool) : Value := .prim (.bool b)

/-- An integer. -/
@[match_pattern] abbrev int (n : Int) : Value := .prim (.int n)

/-- A floating-point number. -/
@[match_pattern] abbrev float (x : Binary64) : Value := .prim (.float x)

/-- A text. -/
@[match_pattern] abbrev text (s : String) : Value := .prim (.text s)

instance : Inhabited Value := ⟨nil⟩

/-- A value without the class that is derived from its own: numbers and texts are used as such whatever class
they are of. -/
def plain : Value → Value
  | .derived _ base => .prim base.primitive
  | v => v

@[simp] theorem plain_prim (p : Primitive) : (prim p).plain = .prim p := rfl

/-- What is passed by value, as a value. -/
def ofScalar : Scalar → Value
  | .plain p => .prim p
  | .derived className base => .derived className base

/-- The truth value that a condition sees: the absent value, zeros and empty containers count as false. -/
def truthy (v : Value) : Bool :=
  match v.plain with
  | .nil => false
  | .bool b => b
  | .int n => n != 0
  | .float x => !x.isZero
  | .text s => !s.isEmpty
  | .bytes data => !data.isEmpty
  | .list items | .tuple items | .set items | .coll _ items => !items.isEmpty
  | .dict entries => !entries.isEmpty
  | _ => true

/-- The name of the kind of a value, as messages give it. -/
def typeName : Value → String
  | .nil => "NoneType"
  | .bool _ => "bool"
  | .int _ => "int"
  | .float _ => "float"
  | .text _ => "str"
  | .derived className _ => className
  | .bytes _ => "bytes"
  | .list _ => "list"
  | .tuple _ => "tuple"
  | .dict _ => "dict"
  | .set _ => "set"
  | .date _ => "date"
  | .dateTime _ => "datetime"
  | .object _ => "object"
  | .symbol _ => "FakeSymbol"
  | .keyword _ => "FakeKeyword"
  | .coll _ _ => "FakeColl"
  | .var _ _ => "FakeVar"
  | .function _ _ => "FakeFn"
  | .scope _ => "FakeNamespace"
  | .fixture .entry => "FakeEntry"
  | .fixture .symbolClass => "FakeSymbolClass"
  | .fixture .namespaceClass => "FakeNamespaceClass"
  | .fixture .system => "FakeSystem"
  | .fixture .out => "FakePrintStream"
  | .counter _ => "count"
  | .javaClass _ => "JavaMeta"
  | .javaObject _ _ => "JavaClass"
  | .javaMethod ofObject _ _ => if ofObject then "method" else "function"
  | .owner _ => "OpaqueValue"
  | .callable _ => "IFn"
  | .argument _ => "InvocationArg"
  | .namespaceHandle _ => "CljNs"
  | .core => "CljCore"
  | .handle _ => "RuntimeHandle"
  | .backend _ => "Backend"
  | .other kind _ => kind

end Value

end HostBridge
