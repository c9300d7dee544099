import HostBridge.Fault
import HostBridge.Value.Text

/-!
# Call arguments

Which values can be passed in a call, and as what. Opaque values and callables pass by reference,
primitives by value; integers that need more than sixty-four bits and all other values are refused before
any call is made.
-/

namespace HostBridge

/-- The fault of an integer that is too large to be passed. -/
def Primitive.tooLong (p : Primitive) : Fault :=
  p.outOfRange "Integer " " does not fit in a signed 64-bit argument"

namespace Argument

/-- The argument of something that is passed by value, if it fits. -/
def ofScalar (s : Scalar) : Except Fault Argument :=
  if fits : s.primitive.FitsLong then .ok (.primitive s fits) else .error s.primitive.tooLong

/-- The argument that a value is passed as (`InvocationArg`). -/
def ofValue : Value → Except Fault Argument
  | .argument a => .ok a
  | .callable f => .ok (.reference f.inner)
  | .owner id => .ok (.reference id)
  | .prim p => ofScalar (.plain p)
  | .derived className base => ofScalar (.derived className base)
  | v => .error (.standard .type ("Unsupported invocation argument type: " ++ v.typeName))

/-- The arguments that several values are passed as (`InvocationArg.many`); the first one that is refused decides. -/
def ofValues : List Value → Except Fault (List Argument)
  | [] => .ok []
  | v :: rest => do
    let a ← ofValue v
    let others ← ofValues rest
    .ok (a :: others)

/-- Is it passed by reference (`is_ref`)? -/
def isReference : Argument → Bool
  | .primitive .. => false
  | .reference _ => true

/-- What is passed (`value`). -/
def value : Argument → Value
  | .primitive s _ => .ofScalar s
  | .reference id => .owner id

/-- What an argument holds is passed as the same argument. -/
theorem ofValue_value (a : Argument) : ofValue a.value = .ok a := by
  cases a with
  | primitive s fits => cases s <;> exact dif_pos fits
  | reference id => rfl

end Argument

end HostBridge
