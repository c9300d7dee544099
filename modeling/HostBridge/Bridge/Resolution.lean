import HostBridge.Bridge.Invocation

/-!
# Resolving names

A name resolves in a namespace if the namespace is there and has a bound variable of its own under that
name. Looking creates nothing.
-/

namespace HostBridge

namespace Action

variable {ω : Type}

/-- The logger of this module. -/
def resolverLogger : String := "cljbridge.resolver"

/-- The host class of symbols. -/
def symbolClass : Value := .text "clojure.lang.Symbol"

/-- The host class of namespaces. -/
def namespaceClass : Value := .text "clojure.lang.Namespace"

/-- The symbol with a name (`intern_symbol`). -/
def internSymbol (host : Host ω) (rt : HandleId) (name : String) : Action ω Value := do
  let boxed ← box host rt (.text name)
  invokeStatic host rt symbolClass "intern" [boxed]

/-- The namespace with a name, or the absent value (`_find_ns`). -/
def lookUpNamespace (host : Host ω) (rt : HandleId) (ns : String) : Action ω Value := do
  let symbol ← internSymbol host rt ns
  invokeStatic host rt namespaceClass "find" [symbol]

/-- Find a namespace, and own it (`find_namespace`). -/
def findNamespace (host : Host ω) (ns : String) : Action ω OpaqueId := do
  let found ← onHostFault (withRuntime host fun rt => lookUpNamespace host rt ns) fun fault =>
    return .fromHost .symbolLookup ("Could not look up namespace " ++ ns) fault
  match found with
  | .nil => throw (.plain .symbolLookup ("Namespace " ++ ns ++ " is not loaded"))
  | found => own found

/-- What looking for a variable came to. -/
inductive Lookup where
  | noNamespace
  | notBound
  | bound (var : Value)

/-- Look for a variable. -/
def lookUp (host : Host ω) (rt : HandleId) (ns name : String) : Action ω Lookup := do
  match ← lookUpNamespace host rt ns with
  | .nil => return .noNamespace
  | scope =>
    let symbol ← internSymbol host rt name
    match ← invokeMethod host rt scope "findInternedVar" [symbol] with
    | .nil => return .notBound
    | var =>
      if (← invokeMethod host rt var "isBound" []).truthy then return .bound var
      else return .notBound

/-- Resolve a name to a callable (`resolve`). -/
def resolve (host : Host ω) (ns name : String) : Action ω Callable := do
  let qualified := ns ++ "/" ++ name
  let found ← onHostFault (withRuntime host fun rt => lookUp host rt ns name) fun fault => do
    debug resolverLogger ("Resolving " ++ qualified ++ " failed: " ++ fault.text)
    return .fromHost .symbolLookup ("Could not resolve " ++ qualified) fault
  match found with
  | .noNamespace =>
    throw (.plain .symbolLookup
      ("Could not resolve " ++ qualified ++ ": namespace " ++ ns ++ " is not loaded"))
  | .notBound =>
    debug resolverLogger (qualified ++ " has no bound var")
    throw (.plain .symbolLookup (qualified ++ " is not bound"))
  | .bound var =>
    debug resolverLogger ("Resolved " ++ qualified)
    return { inner := ← own var, scope? := some ns, name? := some name }

end Action

end HostBridge
