import HostBridge.Bridge.Source

/-!
# Carrying operations out

What each operation does.
-/

namespace HostBridge

namespace Operation

variable {ω : Type}

/-- Carry an operation out. -/
def run (host : Host ω) : Operation → Action ω Value
  | .give v => return v
  | .currentRuntime => return .handle (← Action.currentRuntime host)
  | .detachRuntime => return .bool (← Action.detachRuntime host)
  | .hasRuntime => return .bool (← Action.hasRuntime)
  | .setBackend backend? => do
    Action.setBackend backend?
    return .nil
  | .getBackend => return .backend (← Action.getBackend)
  | .findNamespace ns => return .owner (← Action.findNamespace host ns)
  | .namespaceHandle ns => do
    discard <| Action.findNamespace host ns
    return .namespaceHandle ns
  | .resolve ns name => return .callable (← Action.resolve host ns name)
  | .require ns => do
    Action.require host ns
    return .namespaceHandle ns
  | .read text => return .owner (← Action.readString host text)
  | .evaluate text => return .owner (← Action.evalString host text)
  | .readForms forms => return .owner (← Action.readForms host forms)
  | .evalForms forms => return .owner (← Action.evalForms host forms)
  | .invoke f args => return .owner (← Action.invoke host f args)
  | .own v => return .owner (← Action.own v)
  | .reference id => Action.reference id
  | .release id => return .bool (← Action.release id)
  | .released id => return .bool (← Action.released id)
  | .isNil id => return .bool (← Action.isNil id)
  | .toPrimitive id => Action.toPrimitive host id
  | .printValue v => match v with
    | .owner id => do
      Action.printValue host id
      return .nil
    | v => throw (v.lacks "ref")
  | .prStr v => Action.prStr host v
  | .printLazy v => do
    Action.printLazy host v
    return .nil
  | .withRuntime f => return .owner (← Action.callWithRuntime host f)
  | .toArgument v => do
    let a ← MonadExcept.ofExcept (Argument.ofValue v)
    return .argument a
  | .toArguments vs => do
    match vs.items? with
    | some items =>
      let as ← MonadExcept.ofExcept (Argument.ofValues items)
      return .list (as.map .argument)
    | none => throw vs.notIterable
  | .toHost a => Action.withRuntime host fun rt => Action.toHost host rt a
  | .staticClass rt name => Action.staticClass host rt name
  | .invokeStatic rt className method args => Action.invokeStatic host rt className method args
  | .readField rt target name => Action.readField host rt target name
  | .invokeMethod rt target method args => Action.invokeMethod host rt target method args
  | .box rt v => Action.box host rt v
  | .unbox rt ref => Action.unbox host rt ref
  | .detachHandle rt => do
    Action.detachHandle host rt
    return .nil

end Operation

end HostBridge
