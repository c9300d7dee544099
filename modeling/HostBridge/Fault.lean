import HostBridge.Text.Quoted

/-!
# Faults

Why an operation failed. Faults of the bridge itself come in nine kinds and carry the diagnostics of the
host where there are any; what a host throws arrives as a host fault. Each fault that was raised in answer
to another one keeps it as its cause.
-/

namespace HostBridge

/-- The kinds of faults that bridge operations document. -/
inductive BridgeKind where
  | bridge
  | attachment
  | symbolLookup
  | load
  | invocation
  | parse
  | evaluation
  | releasedValue
  | marshalling
deriving DecidableEq, Repr

/-- The kinds of faults that are not particular to the bridge. -/
inductive StandardKind where
  | type
  | value
  | key
  | lookup
  | overflow
  | runtime
  | os
  | absentAttribute
  | recursion
  | named (className : String)
deriving DecidableEq, Repr

/-- What is wrong with one field of a configuration. -/
inductive FieldProblem where
  | notText
  | notUnicode
  /-- Its own check rejects it. -/
  | rejected (message : String)
deriving DecidableEq, Repr

/-- A field of a configuration and what is wrong with it. -/
structure FieldError where
  /-- The field. -/
  field : String
  /-- What is wrong. -/
  problem : FieldProblem
deriving DecidableEq, Repr

/-- Why an operation failed. -/
inductive Fault where
  /-- Thrown by a hosted runtime, as backends report it. -/
  | host (className : String) (message trace : Option String) (cause : Option Fault)
  /-- Raised by a bridge operation. -/
  | bridge (kind : BridgeKind) (message : String) (hostClass hostMessage : Option String)
      (cause : Option Fault)
  /-- Thrown inside the in-memory host, before its backend reports it. -/
  | thrown (className : String) (message : Option String)
  /-- Thrown inside a virtual machine, before its backend reports it. -/
  | java (className : String) (message trace : Option String)
  /-- A fault with a text of its own. -/
  | standard (kind : StandardKind) (message : String)
  /-- A misuse of a value that the running system itself detects; its wording is not part of any
  contract. -/
  | misuse (kind : StandardKind) (detail : String)
  /-- A configuration with fields of the wrong kind. -/
  | invalid (errors : List FieldError)
  /-- A settings file that cannot be read as such. -/
  | malformed
deriving Repr

instance : Inhabited Fault := ⟨.malformed⟩

namespace BridgeKind

/-- The name of the kind of fault. -/
def className : BridgeKind → String
  | .bridge => "BridgeError"
  | .attachment => "AttachmentError"
  | .symbolLookup => "SymbolLookupError"
  | .load => "LoadError"
  | .invocation => "InvocationError"
  | .parse => "ParseError"
  | .evaluation => "EvaluationError"
  | .releasedValue => "ReleasedValueError"
  | .marshalling => "MarshallingError"

/-- All kinds, the general one first. -/
def all : List BridgeKind :=
  [.bridge, .attachment, .symbolLookup, .load, .invocation, .parse, .evaluation, .releasedValue,
    .marshalling]

end BridgeKind

namespace StandardKind

/-- The name of the kind of fault. -/
def className : StandardKind → String
  | .type => "TypeError"
  | .value => "ValueError"
  | .key => "KeyError"
  | .lookup => "LookupError"
  | .overflow => "OverflowError"
  | .runtime => "RuntimeError"
  | .os => "OSError"
  | .absentAttribute => "AttributeError"
  | .recursion => "RecursionError"
  | .named name => name

/-- The kind that a name stands for. -/
def ofClassName (name : String) : StandardKind :=
  ([type, value, key, lookup, overflow, runtime, os, absentAttribute,
      recursion].find?
    (·.className == name)).getD (.named name)

end StandardKind

namespace Fault

/-- The name of the class of a fault. -/
def className : Fault → String
  | .host .. => "HostException"
  | .bridge kind .. => kind.className
  | .thrown .. => "FakeHostError"
  | .java .. => "JException"
  | .standard kind _ | .misuse kind _ => kind.className
  | .invalid _ => "ValidationError"
  | .malformed => "YAMLError"

/-- The text of what a host throws: the class, and the message unless it is empty. -/
def hostText (className : String) : Option String → String
  | none => className
  | some message => if message.isEmpty then className else s!"{className}: {message}"

/-- The text of a fault. The text of a missing key is the key in quotes. -/
def text : Fault → String
  | .host className message _ _ => hostText className message
  | .bridge _ message _ _ _ => message
  | .thrown className message => className ++ ": " ++ message.getD "None"
  | .java className message _ => match message with
    | none => className
    | some m => s!"{className}: {m}"
  | .standard .key key => Text.quote key
  | .standard _ message => message
  | .misuse _ detail => detail
  | .invalid _ => "validation error"
  | .malformed => "malformed"

/-- The fault that this one answers. -/
def cause : Fault → Option Fault
  | .host _ _ _ cause | .bridge _ _ _ _ cause => cause
  | _ => none

/-- The host's class, as a fault of the bridge carries it. -/
def hostClass : Fault → Option String
  | .bridge _ _ hostClass _ _ => hostClass
  | _ => none

/-- The host's message, as a fault of the bridge carries it. -/
def hostMessage : Fault → Option String
  | .bridge _ _ _ hostMessage _ => hostMessage
  | _ => none

/-- Was a value of the wrong kind used? Marshalling faults count. -/
def isTypeFault : Fault → Bool
  | .bridge .marshalling .. => true
  | .standard .type _ | .misuse .type _ => true
  | _ => false

/-- Is it a fault of the running system, recursion that went too deep included? -/
def isRuntimeFault : Fault → Bool
  | .standard .runtime _ | .standard .recursion _ | .misuse .runtime _ => true
  | .standard (.named name) _ => name == "NotImplementedError"
  | _ => false

/-- The fault that a computation came to, if it failed. -/
def of? {α : Type} : Except Fault α → Option Fault
  | .ok _ => none
  | .error fault => some fault

/-- The fault of calls that nest too deeply. -/
def tooDeep : Fault := .standard .recursion "maximum recursion depth exceeded"

/-- A fault of the bridge without diagnostics and without a cause. -/
def plain (kind : BridgeKind) (message : String) : Fault :=
  .bridge kind message none none none

/-- A fault of the bridge that answers a host fault (`from_host`): it adds to the host's text and keeps the host's
class and message. Any other cause is kept without diagnostics. -/
def fromHost (kind : BridgeKind) (message : String) (cause : Fault) : Fault :=
  match cause with
  | .host className hostMessage _ _ =>
    .bridge kind s!"{message}: {cause.text}" (some className) hostMessage (some cause)
  | _ => .bridge kind s!"{message}: {cause.text}" none none (some cause)

/-- A fault of the bridge that answers another one and passes its diagnostics on. -/
def fromBridge (kind : BridgeKind) (message : String) (cause : Fault) : Fault :=
  .bridge kind s!"{message}: {cause.text}" cause.hostClass cause.hostMessage (some cause)

end Fault

end HostBridge
