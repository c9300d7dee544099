import HostBridge.Bridge.Performance

/-!
# Operations by name

What callers can name: the functions of the public interface, and the methods of its values. A name and
the values it is called with make an operation, or a fault if there is no such function or the values do
not fit. The classes of faults are part of the interface, and how they are related.
-/

namespace HostBridge

/-- The names of the public interface, sorted. -/
def publicNames : List String :=
  ["AttachmentError", "BridgeError", "CljCore", "CljNs", "EvaluationError", "HostException", "IFn",
    "InvocationArg", "InvocationError", "LoadError", "MarshallingError", "OpaqueValue", "ParseError",
    "ReleasedValueError", "SymbolLookupError", "cljeval", "cljread", "detach_runtime", "eval_string",
    "evaluate", "invoke", "lookup_var", "parse", "pr_str", "print_lazy", "print_value", "read_string",
    "require_namespace", "resolve", "resolve_namespace", "with_runtime"]

/-- The classes that a kind of bridge fault belongs to besides its own. -/
def BridgeKind.parents : BridgeKind → List String
  | .bridge => ["Exception"]
  | .symbolLookup => ["BridgeError", "LookupError", "Exception"]
  | .marshalling => ["BridgeError", "TypeError", "Exception"]
  | _ => ["BridgeError", "Exception"]

/-- The classes that a class of faults belongs to, itself included. -/
def faultAncestors (className : String) : List String :=
  match BridgeKind.all.find? (·.className == className) with
  | some kind => className :: kind.parents
  | none => if className == "HostException" then [className, "Exception"] else [className]

namespace Operation

/-- The fault of calling with values that do not fit. -/
def unfitArguments : Fault := .misuse .type "wrong arguments"

/-- How many values each function takes: at least, and at most if there is a limit. -/
def arities : List (String × Nat × Option Nat) :=
  [("resolve_namespace", 1, some 1), ("find_namespace", 1, some 1), ("require_namespace", 2, some 2),
    ("lookup_var", 2, some 2), ("resolve", 2, some 2), ("invoke", 1, some 2), ("parse", 1, some 1),
    ("read_string", 1, some 1), ("evaluate", 1, some 1), ("eval_string", 1, some 1), ("cljread", 0, none),
    ("cljeval", 0, none), ("pr_str", 1, some 1), ("print_value", 1, some 1), ("print_lazy", 1, some 1),
    ("with_runtime", 1, some 1), ("current_runtime", 0, some 0), ("detach_runtime", 0, some 0),
    ("has_runtime", 0, some 0), ("get_backend", 0, some 0), ("OpaqueValue", 1, some 1), ("IFn", 1, some 3),
    ("InvocationArg", 1, some 1), ("CljNs", 1, some 1), ("CljCore", 0, some 0),
    ("HostException", 1, some 3)] ++ BridgeKind.all.map fun kind => (kind.className, 1, some 3)

/-- Does a function take so many values? Functions that are not there take none. -/
def admits (name : String) (count : Nat) : Bool :=
  match arities.lookup name with
  | some (least, most?) => least ≤ count && most?.all (count ≤ ·)
  | none => false

/-- A name that may be left out. -/
def name? (v? : Option Value) : Option String :=
  match v? with
  | some (.text s) => some s
  | _ => none

/-- The operation of a function that is called with values it takes so many of. -/
def ofCall (name : String) (args : List Value) : Except Fault Operation :=
  match name, args with
  | "resolve_namespace", [.text ns] => .ok (.namespaceHandle ns)
  | "find_namespace", [.text ns] => .ok (.findNamespace ns)
  | "require_namespace", [.core, .text ns] => .ok (.require ns)
  | "require_namespace", v :: _ => .error (v.lacks "require")
  | "lookup_var", [.namespaceHandle ns, .text name] => .ok (.resolve ns name)
  | "lookup_var", [.core, .text name] => .ok (.resolve Action.coreNamespace name)
  | "lookup_var", v :: _ => .error (v.lacks "var")
  | "resolve", [.text ns, .text name] => .ok (.resolve ns name)
  | "invoke", [.callable f] => .ok (.invoke f (.tuple []))
  | "invoke", [.callable f, args] => .ok (.invoke f args)
  | "invoke", v :: _ => .error (v.lacks "invoke")
  | "parse", [.text s] | "read_string", [.text s] => .ok (.read s)
  | "evaluate", [.text s] | "eval_string", [.text s] => .ok (.evaluate s)
  | "cljread", forms => .ok (.readForms forms)
  | "cljeval", forms => .ok (.evalForms forms)
  | "pr_str", [v] => .ok (.prStr v)
  | "print_value", [v] => .ok (.printValue v)
  | "print_lazy", [v] => .ok (.printLazy v)
  | "with_runtime", [f] => .ok (.withRuntime f)
  | "current_runtime", [] => .ok .currentRuntime
  | "detach_runtime", [] => .ok .detachRuntime
  | "has_runtime", [] => .ok .hasRuntime
  | "get_backend", [] => .ok .getBackend
  | "OpaqueValue", [v] => .ok (.own v)
  | "InvocationArg", [v] => .ok (.toArgument v)
  | "CljNs", [.text ns] => .ok (.give (.namespaceHandle ns))
  | "CljCore", [] => .ok (.give .core)
  | "IFn", .owner id :: names =>
    .ok (.give (.callable { inner := id, scope? := name? names[0]?, name? := name? names[1]? }))
  | name, _ =>
    if (faultAncestors name).contains "Exception" then .ok (.give (.other name 0))
    else .error unfitArguments

/-- The operation of a function of the public interface. -/
def ofFunction (name : String) (args : List Value) : Except Fault Operation :=
  if (arities.lookup name).isNone then .error (.misuse .absentAttribute ("no function " ++ name))
  else if admits name args.length then ofCall name args
  else .error unfitArguments

/-- The values in a value. -/
def valuesIn (v : Value) : Except Fault (List Value) :=
  match v.items? with
  | some items => .ok items
  | none => .error v.notIterable

/-- The methods of a value that take other values. -/
def methodNames : Value → List String
  | .core => ["var", "require", "find_ns"]
  | .namespaceHandle _ => ["var"]
  | .callable _ => ["invoke", "invoke0", "invoke1"]
  | .owner _ => ["release", "to_primitive"]
  | .argument _ => ["to_host"]
  | .handle _ => ["static_class", "invoke_static", "field", "invoke", "box", "unbox", "detach"]
  | .backend _ => ["attach_thread", "detach_thread", "static_class", "field", "invoke", "box", "unbox"]
  | _ => []

/-- The operation of a method of a value, or of something that the value says of itself. -/
def ofMethod (on : Value) (name : String) (args : List Value) : Except Fault Operation :=
  match on, name, args with
  | .core, "name", [] => .ok (.give (.text Action.coreNamespace))
  | .namespaceHandle ns, "name", [] => .ok (.give (.text ns))
  | .core, "var", args | .namespaceHandle _, "var", args => ofFunction "lookup_var" (on :: args)
  | .core, "require", args => ofFunction "require_namespace" (on :: args)
  | .core, "find_ns", args => ofFunction "resolve_namespace" args
  | .callable f, "into_inner", [] => .ok (.give (.owner f.inner))
  | .callable f, "qualified_name", [] => .ok (.give (.text f.qualifiedName))
  | .callable f, "invoke", [args] => .ok (.invoke f args)
  | .callable f, "invoke0", [] => .ok (.invoke f (.tuple []))
  | .callable f, "invoke1", [v] => .ok (.invoke f (.tuple [v]))
  | .callable f, "__call__", args => .ok (.invoke f (.tuple args))
  | .owner id, "ref", [] => .ok (.reference id)
  | .owner id, "release", [] => .ok (.release id)
  | .owner id, "released", [] => .ok (.released id)
  | .owner id, "is_nil", [] => .ok (.isNil id)
  | .owner id, "to_primitive", [] => .ok (.toPrimitive id)
  | .argument a, "value", [] => .ok (.give a.value)
  | .argument a, "is_ref", [] => .ok (.give (.bool a.isReference))
  | .argument a, "to_host", [] => .ok (.toHost a)
  | .handle rt, "static_class", [name] => .ok (.staticClass rt name)
  | .handle rt, "invoke_static", [c, .text m] => .ok (.invokeStatic rt c m [])
  | .handle rt, "invoke_static", [c, .text m, args] => (valuesIn args).map (.invokeStatic rt c m)
  | .handle rt, "field", [target, .text name] => .ok (.readField rt target name)
  | .handle rt, "invoke", [target, .text m] => .ok (.invokeMethod rt target m [])
  | .handle rt, "invoke", [target, .text m, args] => (valuesIn args).map (.invokeMethod rt target m)
  | .handle rt, "box", [v] => .ok (.box rt v)
  | .handle rt, "unbox", [v] => .ok (.unbox rt v)
  | .handle rt, "detach", [] => .ok (.detachHandle rt)
  | v, name, _ =>
    .error (if (methodNames v).contains name then unfitArguments else v.lacks name)

end Operation

/-- What a caller can name: an operation of the bridge, or a call to a backend without a handle. -/
inductive Command where
  | operation (op : Operation)
  | backend (b : BackendId) (call : Call)

namespace Command

/-- Carry a command out. -/
def run {ω : Type} (host : Host ω) : Command → Action ω Value
  | .operation op => op.run host
  | .backend b call => host none b call

/-- The command of a method of a value. -/
def ofMethod (on : Value) (name : String) (args : List Value) : Except Fault Command :=
  match on, name, args with
  | .backend b, "attach_thread", [] => .ok (.backend b .attach)
  | .backend b, "detach_thread", [] => .ok (.backend b .detach)
  | .backend b, "static_class", [name] => .ok (.backend b (.staticClass name))
  | .backend b, "field", [target, .text name] => .ok (.backend b (.field target name))
  | .backend b, "invoke", [target, .text m, args] =>
    (Operation.valuesIn args).map fun args => .backend b (.invoke target m args)
  | .backend b, "box", [v] => .ok (.backend b (.box v))
  | .backend b, "unbox", [v] => .ok (.backend b (.unbox v))
  | on, name, args => (Operation.ofMethod on name args).map .operation

end Command

end HostBridge
