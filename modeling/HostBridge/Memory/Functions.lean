import HostBridge.Memory.World
import HostBridge.Memory.Form
import HostBridge.Value.Equality

/-!
# The functions of the in-memory host

What the functions of the host compute. A function that gets the wrong number or the wrong kind of
arguments fails inside with a type fault, which its caller sees as a fault of arity.
-/

namespace HostBridge.Memory

open Number (Binary64 twoTo)

/-- Work of the in-memory host. -/
abbrev Work := Hosted World

/-- The result of a computation without effects. -/
def lift {α : Type} (r : Except Fault α) : Work α := MonadExcept.ofExcept r

/-- The type fault of a function that cannot take its arguments. -/
def unfit : Fault := .misuse .type "wrong arguments"

/-- Fail the way a hosted runtime throws. -/
def throwHost {α : Type} (className message : String) : Work α := throw (.thrown className (some message))

/-- A number as an addend. -/
inductive Addend where
  | int (n : Int)
  | float (x : Binary64)

/-- A value as an addend; truth values count as one and zero. -/
def addend? (v : Value) : Option Addend :=
  match v.plain with
  | .int n => some (.int n)
  | .bool b => some (.int (if b then 1 else 0))
  | .float x => some (.float x)
  | _ => none

/-- An integer as a floating-point number. -/
def toFloat (n : Int) : Except Fault Binary64 :=
  match Binary64.ofInt? n with
  | some x => .ok x
  | none => .error (.standard .overflow "int too large to convert to float")

/-- Combine two numbers; an integer next to a floating-point number becomes one. -/
def combine (ints : Int → Int → Int) (floats : Binary64 → Binary64 → Binary64) :
    Addend → Addend → Except Fault Addend
  | .int m, .int n => .ok (.int (ints m n))
  | .float x, .float y => .ok (.float (floats x y))
  | .int m, .float y => (toFloat m).map fun x => .float (floats x y)
  | .float x, .int n => (toFloat n).map fun y => .float (floats x y)

/-- The value of an addend. -/
def Addend.toValue : Addend → Value
  | .int n => .int n
  | .float x => .float x

/-- The sum of several values, from zero on. -/
def sum (vs : List Value) : Except Fault Value := do
  let total ← vs.foldlM (fun total v => match addend? v with
    | some a => combine (· + ·) Binary64.add total a
    | none => .error unfit) (.int 0)
  return total.toValue

/-- Twice a value: numbers are doubled, rows repeated. -/
def doubled (v : Value) : Except Fault Value :=
  match v.plain with
  | .text s => .ok (.text (s ++ s))
  | .bytes data => .ok (.bytes (data ++ data))
  | .list items => .ok (.list (items ++ items))
  | .tuple items => .ok (.tuple (items ++ items))
  | _ => match addend? v with
    | some a => (combine (· * ·) Binary64.mul a (.int 2)).map Addend.toValue
    | none => .error unfit

/-- How many parts a value has. -/
def size (v : Value) : Except Fault Value :=
  match v.items? with
  | some items => .ok (.int items.length)
  | none => .error unfit

/-- The fault of a count that does not say how many items to take. -/
def badCount (word : String) : Fault :=
  .standard .value
    (word ++ " for islice() must be None or an integer: 0 <= x <= sys.maxsize.")

/-- How many items to take; the absent value takes them all. -/
def takeCount (n : Value) : Except Fault (Option Nat) :=
  let integer (n : Int) : Except Fault (Option Nat) :=
    if n < -1 ∧ -(twoTo 63 : Int) ≤ n then .error (badCount "Indices")
    else if n < 0 ∨ (twoTo 63 : Int) ≤ n then .error (badCount "Stop argument")
    else .ok (some n.toNat)
  match n.plain with
  | .nil => .ok none
  | .bool b => .ok (some (if b then 1 else 0))
  | .int n => integer n
  | _ => .error (badCount "Stop argument")

/-- The next numbers of a counter. -/
def count (id n : Nat) : Work Value :=
  modifyGet fun w =>
    let next := (w.counters[id]?).getD 0
    (.list ((List.range n).map fun i => .int (next + i : Nat)),
      { w with counters := w.counters.modify id (· + n) })

/-- The first items of a value. Taking them from a counter moves it on. -/
def takeItems (n coll : Value) : Work Value := do
  let n? ← lift (takeCount n)
  match coll with
  | .counter id => count id (n?.getD 0)
  | _ => match coll.items?, n? with
    | some items, some n => return .list (items.take n)
    | some items, none => return .list items
    | none, _ => throw unfit

/-- The name of a thing that has one. -/
def nameOf (v : Value) : Except Fault String :=
  match v with
  | .symbol name | .keyword name | .var _ name | .scope name | .namespaceHandle name => .ok name
  | .core => .ok "clojure.core"
  | v => .error (v.lacks "name")

/-- The namespace that a thing names, or the absent value. -/
def findNamespace (v : Value) : Work Value := do
  let name ← lift (nameOf v)
  return if ((← get).scope? name).isSome then .scope name else .nil

/-- The class of faults in code. -/
def compilerFault : String := "clojure.lang.Compiler$CompilerException"

/-- The place of a namespace on the class path. -/
def resourceName (ns : String) : String :=
  String.ofList (ns.toList.map fun c => if c = '.' then '/' else c) ++ "__init.class"

/-- Load a namespace. -/
def requireNamespace (v : Value) : Work Value := do
  match v with
  | .symbol name =>
    modify fun w => { w with requireCalls := w.requireCalls ++ [name] }
    let w ← get
    if name = "demo.broken" then
      throwHost compilerFault "Syntax error compiling at (demo/broken.clj:3:1)"
    else if w.loaded.contains name then return .nil
    else match w.loadable.lookup name with
      | none =>
        throwHost "java.io.FileNotFoundException"
          ("Could not locate " ++ resourceName name ++ " on classpath")
      | some defs =>
        modify fun w => w.load name defs
        return .nil
  | _ => throwHost "java.lang.Exception" "require takes symbols"

/-- Make a function object. -/
def newFunction (label : String) (body : Body) : Work Value :=
  modifyGet fun w => (.function w.functions.length label, { w with functions := w.functions ++ [body] })

/-- Make a counter. -/
def newCounter : Work Value :=
  modifyGet fun w => (.counter w.counters.length, { w with counters := w.counters ++ [0] })

/-- Call a builtin that calls no other function. -/
def callBuiltin : Builtin → List Value → Work Value
  | .require, [v] => requireNamespace v
  | .findNs, [v] => findNamespace v
  | .take, [n, coll] => takeItems n coll
  | .count, [coll] => lift (size coll)
  | .prStr, [v] => return .text (← lift (print (← get).view v))
  | .inc, [v] => match addend? v with
    | some a => return (← lift (combine (· + ·) Binary64.add a (.int 1))).toValue
    | none => throw unfit
  | .plus, vs => lift (sum vs)
  | .equals, [a, b] => return .bool (a.equal b)
  | .identity, [v] => return v
  | .always v, [] => return v
  | .double, [v] => lift (doubled v)
  | .newCounter, [] => newCounter
  | .assoc, [v] => return .tuple [.text "assoc", v]
  | _, _ => throw unfit

/-- Own several objects through the bridge. -/
def ownAll : List Value → Work (List Value)
  | [] => return []
  | v :: rest => do
    let owner ← Hosted.request (.perform (.own v))
    return owner :: (← ownAll rest)

/-- Resolve a name through the bridge and call it with these arguments, for the object that the result
owns. -/
def reenter (ns name : String) (args : List Value) : Work Value := do
  match ← Hosted.request (.perform (.resolve ns name)) with
  | .callable f =>
    let owners ← ownAll args
    match ← Hosted.request (.perform (.invoke f (.tuple owners))) with
    | .owner id => Hosted.request (.perform (.reference id))
    | v => throw (v.lacks "ref")
  | v => throw (v.lacks "invoke")

/-- Call a function that calls no other one of the host. -/
def callSimple (body : Body) (args : List Value) : Work Value :=
  match body with
  | .builtin b => callBuiltin b args
  | .const v => return v
  | .arguments => return .list args
  | .fail fault => throw fault
  | .reenter ns name => reenter ns name args
  | .make label body => newFunction label body
  | .detach => Hosted.request (.perform .detachRuntime)

/-- Evaluate a text. -/
def loadString (v : Value) : Work Value := do
  match v.plain with
  | .text source =>
    match (← get).evaluates.lookup source with
    | some body => callSimple body []
    | none => match Form.ofText source with
      | .error fault =>
        throw (fault.report fun message =>
          .thrown compilerFault (some ("Syntax error reading source: " ++ message)))
      | .ok _ => throwHost compilerFault ("Unable to resolve symbol in: " ++ source)
  | _ => throw unfit

/-- The fault of an unbound variable. -/
def unboundFault (label : String) : Fault :=
  .thrown "java.lang.IllegalStateException" (some ("Attempting to call unbound fn: #'" ++ label))

/-- What a function object does, and its label. -/
def function? (w : World) : Value → Option (String × Body)
  | .var ns name =>
    let label := ns ++ "/" ++ name
    (w.var? ns name).map fun body? => (label, body?.getD (.fail (unboundFault label)))
  | .function id label => (w.functions[id]?).map fun body => (label, body)
  | _ => none

/-- Report a type fault inside a function as one of arity. -/
def reportingArity (label : String) (args : Nat) (call : Work Value) : Work Value :=
  tryCatch call fun fault =>
    if fault.isTypeFault then
      throwHost "clojure.lang.ArityException"
        ("Wrong number of args (" ++ toString args ++ ") passed to: " ++ label)
    else throw fault

/-- Call a function object with one argument. -/
def callWithItem (f item : Value) : Work Value := do
  match function? (← get) f with
  | none => throw (f.lacks "invoke")
  | some (label, body) => reportingArity label 1 <| match body with
    | .builtin .loadString => loadString item
    | body => callSimple body [item]

/-- Call a function object with each of several arguments. -/
def callWithItems (f : Value) : List Value → Work (List Value)
  | [] => return []
  | item :: rest => do
    let v ← callWithItem f item
    return v :: (← callWithItems f rest)

/-- Do what a function does. -/
def callBody (body : Body) (args : List Value) : Work Value := do
  match body, args with
  | .builtin .map, [f, coll] => match coll.items? with
    | some items => return .list (← callWithItems f items)
    | none => throw unfit
  | .builtin .loadString, [source] => loadString source
  | body, args => callSimple body args

/-- Call a function object. -/
def callFunction (label : String) (body : Body) (args : List Value) : Work Value :=
  reportingArity label args.length (callBody body args)

end HostBridge.Memory
