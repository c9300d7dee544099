import HostBridge.Bridge.Owned
import HostBridge.Bridge.Argument

/-!
# Calling functions

Arguments are checked before anything else, then the function has to be there, then the thread is
attached; only then are the arguments handed over, from left to right, and the call made.
-/

namespace HostBridge

namespace Action

variable {ω : Type}

/-- The logger of this module. -/
def callLogger : String := "cljbridge.ifn"

/-- Hand an argument over to the host (`to_host`). -/
def toHost (host : Host ω) (rt : HandleId) : Argument → Action ω Value
  | .reference id => reference id
  | .primitive s _ => box host rt (.ofScalar s)

/-- Hand several arguments over, from left to right. -/
def allToHost (host : Host ω) (rt : HandleId) : List Argument → Action ω (List Value)
  | [] => return []
  | a :: rest => do
    let v ← toHost host rt a
    return v :: (← allToHost host rt rest)

/-- The fault of giving a text where arguments belong. -/
def textForArguments (v : Value) : Fault :=
  .standard .type ("args must be a sequence of arguments, not " ++ v.typeName)

/-- The arguments in a value: anything with parts, except texts and bytes. -/
def argumentsIn (args : Value) : Except Fault (List Argument) :=
  match args.plain with
  | .text _ | .bytes _ => .error (textForArguments args)
  | _ => match args.items? with
    | some items => Argument.ofValues items
    | none => .error args.notIterable

/-- Turn a host fault into a fault of the bridge, after a remark in the log. Other faults stay. -/
def onHostFault {α : Type} (body : Action ω α) (answer : Fault → Action ω Fault) : Action ω α := do
  match ← outcome body with
  | .ok a => return a
  | .error fault => match fault with
    | .host .. => throw (← answer fault)
    | _ => throw fault

/-- Call a function with the arguments in a value, and own the result (`IFn.invoke`). -/
def invoke (host : Host ω) (f : Callable) (args : Value) : Action ω OpaqueId := do
  let arguments ← MonadExcept.ofExcept (argumentsIn args)
  let target ← reference f.inner
  let call := withRuntime host fun rt => do
    let values ← allToHost host rt arguments
    invokeMethod host rt target "invoke" values
  let result ← onHostFault call fun fault => do
    debug callLogger ("Invoking " ++ f.qualifiedName ++ " with " ++ toString arguments.length ++
      " args failed: " ++ fault.text)
    return .fromHost .invocation ("Invoking " ++ f.qualifiedName ++ " failed") fault
  own result

end Action

end HostBridge
