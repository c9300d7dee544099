import HostBridge.Bridge.Call

/-!
# The interface to a virtual machine

What a bridge to a virtual machine offers to a backend: classes by name, the attachment of threads, the
attributes of classes and objects, and texts as objects. A backend knows a machine only through it, so
what holds for the backend holds for every machine.
-/

namespace HostBridge.Jvm

/-- What an attribute of a class or an object is. -/
inductive Member (ω : Type) where
  /-- The value of a field. -/
  | field (v : Value)
  /-- A method: the object that it is, and what calling it does. -/
  | method (receiver : Value) (call : List Value → Hosted ω Value)

/-- A virtual machine with world `ω`. -/
structure Interface (ω : Type) where
  /-- Has the machine been started? -/
  isStarted : Hosted ω Bool
  /-- The class with a name. -/
  findClass : String → Hosted ω Value
  /-- Is a thread attached? -/
  isAttached : ThreadId → Hosted ω Bool
  /-- Attach a thread. -/
  attach : ThreadId → Hosted ω Unit
  /-- Detach a thread. -/
  detach : ThreadId → Hosted ω Unit
  /-- An attribute; a fault of absence if there is none. -/
  member : Value → String → Hosted ω (Member ω)
  /-- A text as an object. -/
  string : String → Hosted ω Value
  /-- The text that an object shows. -/
  display : Value → Hosted ω String
  /-- The text that names an object in a message. -/
  literal : Value → Hosted ω String
  /-- What an exception throws when it is asked for its class or its message, if it does so. -/
  accessorFault? : Fault → Option Fault

namespace Interface

variable {ω : Type}

/-- The fault of calling what cannot be called. -/
def notCallable (v : Value) : Fault :=
  .misuse .type ("'" ++ v.typeName ++ "' object is not callable")

/-- Call an attribute. -/
def callMember (a : Member ω) (args : List Value) : Hosted ω Value :=
  match a with
  | .field v => throw (notCallable v)
  | .method _ call => call args

/-- Call a method by name. -/
def callMethod (jvm : Interface ω) (target : Value) (name : String) (args : List Value) :
    Hosted ω Value := do
  callMember (← jvm.member target name) args

end Interface

end HostBridge.Jvm
