import HostBridge.Bridge.Attachment

/-!
# Opaque values

An opaque value owns one object of the host until it is released; copies share it. Nothing can be asked
of a released value but that it is released.
-/

namespace HostBridge

namespace Action

variable {ω : Type}

/-- Own an object of the host (`OpaqueValue`). -/
def own (v : Value) : Action ω OpaqueId :=
  modifyGet fun s => (⟨s.owned.length⟩, { s with owned := s.owned ++ [some v] })

/-- The fault of using a released value. -/
def releasedBefore : Fault := .plain .releasedValue "Opaque value was already released"

/-- The object that a value owns (`ref`). -/
def reference (id : OpaqueId) : Action ω Value := do
  match (← get).view id with
  | some v => return v
  | none => throw releasedBefore

/-- Has the value been released (`released`)? -/
def released (id : OpaqueId) : Action ω Bool := return ((← get).view id).isNone

/-- Does the value own the absent object (`is_nil`)? -/
def isNil (id : OpaqueId) : Action ω Bool := do
  match ← reference id with
  | .nil => return true
  | _ => return false

/-- Release a value (`release`). Says whether it was owned until now. -/
def release (id : OpaqueId) : Action ω Bool :=
  modifyGet fun s =>
    ((s.view id).isSome, { s with owned := s.owned.modify id.index fun _ => none })

/-- Run a computation and release the value after it, however it ends. -/
def releasing {α : Type} (id : OpaqueId) (body : Action ω α) : Action ω α := do
  let result ← outcome body
  discard <| release id
  MonadExcept.ofExcept result

/-- The fault that reports a failed conversion to a primitive. -/
def conversionFault (fault : Fault) : Fault :=
  match fault with
  | .bridge .marshalling .. => fault
  | _ => if fault.isTypeFault then .bridge .marshalling fault.text none none (some fault) else fault

/-- The primitive that a value owns in the host's form (`to_primitive`). The absent object needs no host. -/
def toPrimitive (host : Host ω) (id : OpaqueId) : Action ω Value := do
  match ← reference id with
  | .nil => return .nil
  | ref =>
    match ← outcome (withRuntime host fun rt => unbox host rt ref) with
    | .ok v => return v
    | .error fault => throw (conversionFault fault)

end Action

end HostBridge
