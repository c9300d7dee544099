import HostBridge.Bridge.Resolution
import HostBridge.Source.Fragments

/-!
# Loading, reading, evaluating and printing

The operations that callers use most: load a namespace, read text as data, evaluate text as code, print
a value. Each reports what the host throws as a fault of its own kind.
-/

namespace HostBridge

namespace Action

variable {ω : Type}

/-- The logger of this module. -/
def namespaceLogger : String := "cljbridge.namespace"

/-- The namespace that is always loaded. -/
def coreNamespace : String := "clojure.core"

/-- Report a failed load. -/
def loadFault (ns : String) (fault : Fault) : Action ω Fault := do
  let message := "Could not load namespace " ++ ns
  match fault with
  | .host .. => return .fromHost .load message fault
  | .bridge .invocation .. | .bridge .symbolLookup .. =>
    debug namespaceLogger ("Requiring " ++ ns ++ " failed: " ++ fault.text)
    return .fromBridge .load message fault
  | _ => return fault

/-- Have the host load a namespace. -/
def load (host : Host ω) (ns : String) : Action ω OpaqueId := do
  let symbol ← own (← withRuntime host fun rt => internSymbol host rt ns)
  let f ← resolve host coreNamespace "require"
  invoke host f (.tuple [.owner symbol])

/-- Load a namespace (`CljCore.require`). -/
def require (host : Host ω) (ns : String) : Action ω Unit := do
  debug namespaceLogger ("Requiring namespace " ++ ns)
  match ← outcome (load host ns) with
  | .ok _ => return
  | .error fault => throw (← loadFault ns fault)

/-- Read the first form of a text as data (`read_string`). The configuration is checked first. -/
def readString (host : Host ω) (text : String) : Action ω OpaqueId := do
  let config ← configured Config.Store.bridgeConfig
  let read := withRuntime host fun rt => do
    let boxed ← box host rt (.text text)
    invokeStatic host rt (.text config.entryClass) "read" [boxed]
  let v ← onHostFault read fun fault => do
    debug namespaceLogger ("Reading " ++ Text.quote text ++ " failed: " ++ fault.text)
    return .fromHost .parse "Could not read source text" fault
  own v

/-- Evaluate a text as code (`eval_string`). -/
def evalString (host : Host ω) (text : String) : Action ω OpaqueId := do
  let loadString ← resolve host coreNamespace "load-string"
  match ← outcome (invoke host loadString (.tuple [.text text])) with
  | .ok id => return id
  | .error fault => match fault with
    | .bridge .invocation .. =>
      debug namespaceLogger ("Evaluating " ++ Text.quote text ++ " failed: " ++ fault.text)
      throw (.fromBridge .evaluation "Could not evaluate source text" fault)
    | _ => throw fault

/-- A blank among bytes. -/
def isBlankByte (b : UInt8) : Bool := b == 32 || (9 ≤ b && b ≤ 13)

/-- The fragments among values: texts. Blank bytes count as a blank fragment. -/
def fragmentsIn : List Value → Except Fault (List String)
  | [] => .ok []
  | .text s :: rest => (fragmentsIn rest).map (s :: ·)
  | .bytes data :: rest =>
    if data.all isBlankByte then fragmentsIn rest
    else .error (.misuse .type "cannot use a string pattern on a bytes-like object")
  | v :: _ => .error (v.lacks "strip")

/-- Read several fragments as one text (`cljread`). -/
def readForms (host : Host ω) (forms : List Value) : Action ω OpaqueId := do
  readString host (Source.joinForms (← MonadExcept.ofExcept (fragmentsIn forms)))

/-- Evaluate several fragments as one text (`cljeval`). -/
def evalForms (host : Host ω) (forms : List Value) : Action ω OpaqueId := do
  evalString host (Source.joinForms (← MonadExcept.ofExcept (fragmentsIn forms)))

/-- What is printed for an object: the absent one prints as its name. -/
def shown (host : Host ω) (rt : HandleId) : Value → Action ω Value
  | .nil => box host rt (.text "nil")
  | ref => return ref

/-- Print a value on the host's output (`print_value`). -/
def printValue (host : Host ω) (id : OpaqueId) : Action ω Unit := do
  let ref ← reference id
  let print := withRuntime host fun rt => do
    let system ← staticClass host rt (.text "java.lang.System")
    let out ← readField host rt system "out"
    discard <| invokeMethod host rt out "println" [← shown host rt ref]
  onHostFault print fun fault => return .fromHost .invocation "Printing value failed" fault

/-- Call the printer of the host with a value. -/
def printed (host : Host ω) (v : Value) : Action ω OpaqueId := do
  invoke host (← resolve host coreNamespace "pr-str") (.tuple [v])

/-- The readable form of a value (`pr_str`). -/
def prStr (host : Host ω) (v : Value) : Action ω Value := do
  toPrimitive host (← printed host v)

/-- Print the readable form of a value (`print_lazy`). -/
def printLazy (host : Host ω) (v : Value) : Action ω Unit := do
  printValue host (← printed host v)

/-- Call a value with the handle of the calling thread (`with_runtime`). Only callables can be called, and none
takes a handle. -/
def callWithRuntime (host : Host ω) (f : Value) : Action ω OpaqueId :=
  withRuntime host fun rt => match f with
    | .callable f => invoke host f (.tuple [.handle rt])
    | f => throw (.misuse .type ("'" ++ f.typeName ++ "' object is not callable"))

end Action

end HostBridge
