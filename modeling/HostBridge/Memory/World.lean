import HostBridge.Bridge.Call
import HostBridge.Table

/-!
# The world of the in-memory host

Namespaces of variables, functions, code that can be loaded or evaluated, what has been printed, and
failures that were arranged beforehand. It stands in for a hosted runtime where there is none.
-/

namespace HostBridge.Memory

/-- The functions that the host itself defines. -/
inductive Builtin where
  | require
  | findNs
  | loadString
  | take
  | count
  | map
  | prStr
  | inc
  | plus
  | equals
  | identity
  /-- Gives a value, without arguments. -/
  | always (v : Value)
  /-- Twice its argument. -/
  | double
  /-- A fresh counter, without arguments. -/
  | newCounter
  /-- A mark and its argument. -/
  | assoc
deriving Repr

/-- What a function does. -/
inductive Body where
  | builtin (b : Builtin)
  /-- Gives a value, whatever the arguments. -/
  | const (v : Value)
  /-- Gives its arguments. -/
  | arguments
  /-- Fails. -/
  | fail (fault : Fault)
  /-- Resolves a name through the bridge and calls it with the arguments. -/
  | reenter (ns name : String)
  /-- Gives a new function. -/
  | make (label : String) (body : Body)
  /-- Detaches the calling thread. -/
  | detach

/-- A failure that was arranged: calls of this name fail, perhaps only those with this subject, and not
the first few of them. -/
structure Rule where
  /-- The name of the calls. -/
  call : String
  /-- Their subject, if it matters. -/
  subject? : Option String
  /-- How many still pass. -/
  skip : Nat
  /-- How they fail. -/
  fault : Fault

/-- A namespace: variables, unbound ones without a body. -/
abbrev Namespace := List (String × Option Body)

/-- The world. -/
structure World where
  /-- The class that reads source text, as configured. -/
  entryClass : Except Fault Value
  /-- The namespaces. -/
  namespaces : List (String × Namespace)
  /-- The names of loaded namespaces. -/
  loaded : List String
  /-- The names that were required. -/
  requireCalls : List String
  /-- What can be loaded. -/
  loadable : List (String × List (String × Body))
  /-- What evaluates to more than a fault. -/
  evaluates : List (String × Body)
  /-- The function objects. -/
  functions : List Body
  /-- The next number of each counter. -/
  counters : List Nat
  /-- The printed lines. -/
  lines : List String
  /-- The arranged failures. -/
  rules : List Rule
  /-- Does attaching fail? -/
  failAttach : Bool
  /-- What the first backend turned into objects. -/
  boxed : List Value
  /-- The message of the fault that a backend kept to itself when it asked for a handle while attaching. -/
  reentry? : Option String
  /-- The calls that were seen, latest first. -/
  seen : List (BackendId × Call)
  /-- What the opaque values own, as far as the host was told. -/
  owned : OpaqueView

namespace World

open Table (put)

/-- The variables of a namespace. -/
def scope? (w : World) (ns : String) : Option Namespace := w.namespaces.lookup ns

/-- A variable: unbound ones have no body. -/
def var? (w : World) (ns name : String) : Option (Option Body) := (w.scope? ns).bind (·.lookup name)

/-- What the texts of values depend on. -/
def view (w : World) : View := ⟨w.owned, fun id => (w.counters[id]?).getD 0⟩

/-- Create a variable without a body, and its namespace, unless they are there. -/
def intern (w : World) (ns name : String) : World :=
  let vars := (w.scope? ns).getD []
  let vars := if vars.any (·.1 == name) then vars else vars ++ [(name, none)]
  { w with namespaces := put w.namespaces ns vars }

/-- Give a variable a body. -/
def define (w : World) (ns name : String) (body : Body) : World :=
  { w with namespaces := put w.namespaces ns (put ((w.scope? ns).getD []) name (some body)) }

/-- Define the variables of a namespace and mark it as loaded. -/
def load (w : World) (ns : String) (defs : List (String × Body)) : World :=
  let w := defs.foldl (fun w d => w.define ns d.1 d.2) w
  { w with loaded := if w.loaded.contains ns then w.loaded else w.loaded ++ [ns] }

/-- The variables of the namespace that is always loaded. -/
def coreDefs : List (String × Body) :=
  [("require", .builtin .require), ("find-ns", .builtin .findNs), ("load-string", .builtin .loadString),
    ("take", .builtin .take), ("count", .builtin .count), ("map", .builtin .map),
    ("pr-str", .builtin .prStr), ("inc", .builtin .inc), ("+", .builtin .plus), ("=", .builtin .equals),
    ("identity", .builtin .identity), ("constantly-42", .builtin (.always (.int 42)))]

/-- The namespaces that can be loaded from the start. -/
def demoDefs : List (String × List (String × Body)) :=
  [("demo.alpha", [("f", .builtin (.always (.text "alpha"))), ("g", .builtin .double)]),
    ("demo.beta", [("f", .builtin (.always (.text "beta")))]),
    ("demo.gen", [("gen", .builtin .newCounter)])]

/-- The texts that evaluate to something from the start. -/
def demoEvaluates : List (String × Body) :=
  [("(+ 1 2)", .const (.int 3)), ("(str \"a\" \"b\")", .const (.text "ab")),
    ("#(assoc % :new-key :new-value)", .make "assoc-fn" (.builtin .assoc))]

/-- The world before anything happens. -/
def initial (entryClass : Except Fault Value) : World :=
  World.load
    { entryClass, namespaces := [], loaded := [], requireCalls := [], loadable := demoDefs
      evaluates := demoEvaluates, functions := [], counters := [], lines := [], rules := []
      failAttach := false, boxed := [], reentry? := none, seen := []
      owned := fun _ => none }
    "clojure.core" coreDefs

/-- Names in order. -/
def inOrder (names : List String) : Value :=
  .list ((names.mergeSort fun a b => decide (a ≤ b)).map .text)

/-- What the world holds at the surface, and the names in a namespace. -/
def overview (w : World) (ns? : Option String) : Value :=
  let mappings := match ns?.bind w.scope? with
    | some scope => inOrder (scope.map (·.1))
    | none => .nil
  .dict [(.text "namespaces", inOrder (w.namespaces.map (·.1))), (.text "mappings", mappings),
    (.text "require_calls", .list (w.requireCalls.map .text)), (.text "loaded", inOrder w.loaded),
    (.text "boxed", .list w.boxed)]

/-- A namespace, or a variable of it. -/
def object (w : World) (ns : String) (name? : Option String) : Except Fault Value :=
  match w.scope? ns, name? with
  | none, _ => .error (.standard .key ns)
  | some _, none => .ok (.scope ns)
  | some scope, some name =>
    if scope.any (·.1 == name) then .ok (.var ns name) else .error (.standard .key name)

/-- The fault that was arranged for a call, if one is due, and the rules after it. -/
def due (call : Call) : List Rule → Option Fault × List Rule
  | [] => (none, [])
  | r :: rest =>
    let matching := r.call == call.name && (r.subject?.isNone || r.subject? == call.subject?)
    if matching && r.skip = 0 then (some r.fault, r :: rest)
    else
      let (fault?, rest) := due call rest
      (fault?, (if matching then { r with skip := r.skip - 1 } else r) :: rest)

end World

end HostBridge.Memory
