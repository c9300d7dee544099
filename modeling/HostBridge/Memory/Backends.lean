import HostBridge.Memory.Functions

/-!
# Backends of the in-memory host

Four backends share one world. The first one can be told to fail when it attaches; the last two ask for a
runtime handle while they attach, and one of them keeps the fault that this leads to.
-/

namespace HostBridge.Memory

/-- The fault of a lookup that finds nothing. -/
def absent (className name : String) : Fault := .host className (some name) none none

/-- Look a class up: the configured entry class comes first. -/
def classNamed (name : Value) : Work Value := do
  let entryClass ← lift (← get).entryClass
  if name.equal entryClass then return .fixture .entry
  match name.plain with
  | .text "java.lang.System" => return .fixture .system
  | .text "clojure.lang.Symbol" => return .fixture .symbolClass
  | .text "clojure.lang.Namespace" => return .fixture .namespaceClass
  | _ => throw (absent "java.lang.ClassNotFoundException" (name.display (← get).view))

/-- The variables of a namespace, by name. -/
def variablesOf (w : World) (ns : String) : Value :=
  .dict (((w.scope? ns).getD []).map fun v => (.text v.1, .var ns v.1))

/-- A field of an object of the host. -/
def field? (w : World) : Value → String → Option Value
  | .fixture .system, "out" => some (.fixture .out)
  | .fixture .out, "lines" => some (.list (w.lines.map .text))
  | .symbol name, "name" | .keyword name, "name" | .scope name, "name" | .var _ name, "name" => some (.text name)
  | .coll kind _, "kind" => some (.text kind.name)
  | .coll _ items, "items" => some (.tuple items)
  | .var ns _, "ns" => some (.text ns)
  | .var ns name, "label" => some (.text (ns ++ "/" ++ name))
  | .function _ label, "label" => some (.text label)
  | .scope ns, "mappings" => some (variablesOf w ns)
  | _, _ => none

/-- Read a field. -/
def fieldOf (target : Value) (name : String) : Work Value := do
  match field? (← get) target name with
  | some v => return v
  | none => throw (.host "java.lang.NoSuchFieldException" (some name) none (some (target.lacks name)))

/-- Print a line. -/
def printLine (v : Value) : Work Value := do
  let line : String ← match v.plain with
    | .nil => throwHost "java.lang.IllegalArgumentException" "Ambiguous overloads found for println(null)"
    | .text s => pure s
    | _ => lift (print (← get).view v)
  modify fun w => { w with lines := w.lines ++ [line] }
  return .nil

/-- Read the first form of a text. -/
def readForm (v : Value) : Work Value :=
  match v.plain with
  | .text source => match Form.ofText source with
    | .ok form => return form
    | .error fault =>
      throw (fault.report fun message => .thrown "java.lang.RuntimeException" (some message))
  | _ => throw unfit

/-- The symbol of a name. -/
def internSymbol (v : Value) : Work Value :=
  match v.plain with
  | .text name => return .symbol name
  | _ => throw unfit

/-- The variable of a namespace that a thing names, or the absent value. -/
def internedVar (ns : String) (v : Value) : Work Value := do
  let name ← lift (nameOf v)
  return if ((← get).var? ns name).isSome then .var ns name else .nil

/-- Is a variable bound? -/
def isBound (ns name : String) : Work Value :=
  return .bool (((← get).var? ns name).join).isSome

/-- The fault of calling a method that is not there. A field cannot be called. -/
def noMethod (w : World) (target : Value) (name : String) : Fault :=
  if (field? w target name).isSome then unfit else absent "java.lang.NoSuchMethodException" name

/-- Call a method. Values without methods have none of any name. -/
def method (target : Value) (name : String) (args : List Value) : Work Value := do
  match target, name, args with
  | .fixture .entry, "read", [v] => readForm v
  | .fixture .symbolClass, "intern", [v] => internSymbol v
  | .fixture .namespaceClass, "find", [v] => findNamespace v
  | .scope ns, "findInternedVar", [v] => internedVar ns v
  | .var ns var, "isBound", [] => isBound ns var
  | .fixture .out, "println", [v] => printLine v
  | .fixture .entry, "read", _ | .fixture .symbolClass, "intern", _ | .fixture .namespaceClass, "find", _
  | .scope _, "findInternedVar", _ | .var _ _, "isBound", _ | .fixture .out, "println", _ => throw unfit
  | f, "invoke", args => match function? (← get) f with
    | some (label, body) => callFunction label body args
    | none => throw (noMethod (← get) f name)
  | target, name, _ => throw (noMethod (← get) target name)

/-- Report what the host throws as a host fault. -/
def reportingThrown (call : Work Value) : Work Value :=
  tryCatch call fun fault => match fault with
    | .thrown className message => throw (.host className message none (some fault))
    | _ => throw fault

/-- Turn an object into a primitive; only primitives can be. -/
def primitiveOf : Value → Work Value
  | .prim p => return .prim p
  | .derived className base => return .derived className base
  | v => throw (.plain .marshalling ("No primitive conversion for " ++ v.typeName))

/-- Note a call and fail if a failure was arranged for it. -/
def note (backend : BackendId) (call : Call) : Work Unit := do
  let fault? ← modifyGet fun w =>
    let (fault?, rules) := World.due call w.rules
    (fault?, { w with rules, seen := (backend, call) :: w.seen })
  match fault? with
  | some fault => throw fault
  | none => return

/-- What a backend does after attaching: two of them ask for a handle. -/
def afterAttach (backend : BackendId) : Work Value := do
  if backend.label = "RR" then Hosted.request (.perform .currentRuntime)
  else if backend.label = "R" then
    tryCatch (Hosted.request (.perform .currentRuntime)) fun fault => match fault with
      | .bridge .attachment .. => do
        modify fun w => { w with reentry? := some fault.text }
        return .nil
      | _ => throw fault
  else return .nil

/-- The first backend. -/
def firstBackend : BackendId := ⟨"A"⟩

/-- Carry a call out. -/
def perform (backend : BackendId) (call : Call) : Work Value := do
  if backend = firstBackend ∧ (← get).failAttach then
    if let .attach := call then
      throw (.plain .attachment "No JVM is running in this process")
  note backend call
  match call with
  | .attach => afterAttach backend
  | .detach => return .nil
  | .staticClass name => classNamed name
  | .field target name => fieldOf target name
  | .invoke target name args => reportingThrown (method target name args)
  | .box v =>
    if backend = firstBackend then modify fun w => { w with boxed := w.boxed ++ [v] }
    return v
  | .unbox ref => primitiveOf ref

end HostBridge.Memory
