import HostBridge.Value

/-!
# The operations of the bridge

Everything that callers can ask of the bridge, as data: a program that uses the bridge is a row of
operations, each on some thread. What an operation gives is a value; one that has nothing to give gives
the absent value.
-/

namespace HostBridge

/-- An operation of the bridge. -/
inductive Operation where
  /-- Nothing but a value. -/
  | give (v : Value)
  /-- The handle of the calling thread, attached if need be. -/
  | currentRuntime
  /-- Detach the calling thread. -/
  | detachRuntime
  /-- Has the calling thread a handle? -/
  | hasRuntime
  /-- Install a backend, or none. -/
  | setBackend (backend? : Option BackendId)
  /-- The installed backend. -/
  | getBackend
  /-- Find a namespace. -/
  | findNamespace (ns : String)
  /-- A handle for a namespace that is loaded. -/
  | namespaceHandle (ns : String)
  /-- Resolve a name. -/
  | resolve (ns name : String)
  /-- Load a namespace, for a handle to it. -/
  | require (ns : String)
  /-- Read a text as data. -/
  | read (text : String)
  /-- Evaluate a text as code. -/
  | evaluate (text : String)
  /-- Read fragments as one text. -/
  | readForms (forms : List Value)
  /-- Evaluate fragments as one text. -/
  | evalForms (forms : List Value)
  /-- Call a function with the arguments in a value. -/
  | invoke (f : Callable) (args : Value)
  /-- Own an object of the host. -/
  | own (v : Value)
  /-- The object that a value owns. -/
  | reference (id : OpaqueId)
  /-- Release a value. -/
  | release (id : OpaqueId)
  /-- Has a value been released? -/
  | released (id : OpaqueId)
  /-- Does a value own the absent object? -/
  | isNil (id : OpaqueId)
  /-- The primitive that a value owns. -/
  | toPrimitive (id : OpaqueId)
  /-- Print what an opaque value owns. -/
  | printValue (v : Value)
  /-- The readable form of a value. -/
  | prStr (v : Value)
  /-- Print the readable form of a value. -/
  | printLazy (v : Value)
  /-- Call a value with the handle of the calling thread. -/
  | withRuntime (f : Value)
  /-- The argument that a value is passed as. -/
  | toArgument (v : Value)
  /-- The arguments that the parts of a value are passed as. -/
  | toArguments (vs : Value)
  /-- Hand an argument over to the host. -/
  | toHost (a : Argument)
  /-- Look a class up through a handle. -/
  | staticClass (rt : HandleId) (name : Value)
  /-- Call a static method through a handle. -/
  | invokeStatic (rt : HandleId) (className : Value) (method : String) (args : List Value)
  /-- Read a field through a handle. -/
  | readField (rt : HandleId) (target : Value) (name : String)
  /-- Call a method through a handle. -/
  | invokeMethod (rt : HandleId) (target : Value) (method : String) (args : List Value)
  /-- Turn a primitive into an object through a handle. -/
  | box (rt : HandleId) (v : Value)
  /-- Turn an object into a primitive through a handle. -/
  | unbox (rt : HandleId) (ref : Value)
  /-- Detach a handle. -/
  | detachHandle (rt : HandleId)

end HostBridge
