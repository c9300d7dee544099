import HostBridge.Jvm.Unboxing

/-!
# The backend of a virtual machine

Carries calls out on a virtual machine that was started elsewhere. What the machine throws while it looks
up a class, reads a field or calls a method is reported as a host fault; a call that fits no method is
one too.
-/

namespace HostBridge.Jvm

variable {ω : Type}

/-- The logger of this module. -/
def backendLogger : String := "cljbridge.runtime.backend"

/-- Was it thrown inside the machine? -/
def isThrown : Fault → Bool
  | .java .. => true
  | _ => false

/-- Is it the fault of an absent attribute? -/
def isAbsence : Fault → Bool
  | .standard .absentAttribute _ | .misuse .absentAttribute _ => true
  | _ => false

/-- A fault as a host fault (`_host_exception`). An exception that throws when it is asked for its class or its
message gives way to what it throws. -/
def hostFault (jvm : Interface ω) (fault : Fault) : Fault :=
  match fault with
  | .java className message trace =>
    (jvm.accessorFault? fault).getD (.host className message trace (some fault))
  | _ => .host fault.className (some fault.text) none (some fault)

/-- Replace the faults that meet a condition. -/
def reporting {α : Type} (condition : Fault → Bool) (report : Fault → Fault) (work : Hosted ω α) :
    Hosted ω α :=
  tryCatch work fun fault => throw (if condition fault then report fault else fault)

/-- The class of threads. -/
def threadClass : String := "java.lang.Thread"

/-- Write a remark to the log. -/
def remark (message : String) : Hosted ω Unit :=
  discard (Hosted.request (.log ⟨.debug, backendLogger, message⟩))

/-- The fault of attaching without a machine. -/
def notRunning : Fault :=
  .plain .attachment "No JVM is running in this process; start one before using the bridge"

/-- The fault of an attach that the machine refuses. -/
def attachRefused (fault : Fault) : Fault :=
  .bridge .attachment ("Could not attach thread to the JVM: " ++ fault.text) none none (some fault)

/-- Attach a thread, unless it is attached (`attach_thread`). -/
def attachThread (jvm : Interface ω) (t : ThreadId) : Hosted ω Value := do
  if !(← jvm.isStarted) then throw notRunning
  reporting (fun fault => isThrown fault || fault.isRuntimeFault) attachRefused do
    discard <| jvm.findClass threadClass
    if !(← jvm.isAttached t) then
      jvm.attach t
      remark "JPype attached OS thread to the JVM"
  return .nil

/-- Detach a thread (`detach_thread`). The first thread of the process stays attached. -/
def detachThread (jvm : Interface ω) (t : ThreadId) : Hosted ω Value := do
  if !(← jvm.isStarted) then return .nil
  if t = .main then return .nil
  discard <| jvm.findClass threadClass
  jvm.detach t
  remark "JPype detached OS thread from the JVM"
  return .nil

/-- Look a class up (`static_class`). -/
def staticClass (jvm : Interface ω) (name : Value) : Hosted ω Value :=
  reporting (fun fault => isThrown fault || fault.isTypeFault) (hostFault jvm) <|
    match name.plain with
    | .text name => jvm.findClass name
    | _ => throw (.misuse .type ("Class name must be a text, not " ++ name.typeName))

/-- Read a field (`field`). -/
def field (jvm : Interface ω) (target : Value) (name : String) : Hosted ω Value :=
  reporting (fun fault => isThrown fault || isAbsence fault) (hostFault jvm) do
    match ← jvm.member target name with
    | .field v | .method v _ => return v

/-- The fault of a method that is not there; `target` names the object. -/
def noSuchMethod (target method : String) (fault : Fault) : Fault :=
  .host "java.lang.NoSuchMethodException" (some (method ++ " on " ++ target)) none (some fault)

/-- The host fault of a call: a call that fits no method has arguments of the wrong kinds. -/
def callFault (jvm : Interface ω) (fault : Fault) : Fault :=
  if isThrown fault then hostFault jvm fault
  else .host "java.lang.IllegalArgumentException" (some fault.text) none (some fault)

/-- The method of an object. Only where there is none, the object is named. -/
def boundMethod (jvm : Interface ω) (target : Value) (method : String) : Hosted ω (Member ω) :=
  tryCatch (jvm.member target method) fun fault =>
    if isAbsence fault then do throw (noSuchMethod (← jvm.literal target) method fault) else throw fault

/-- Call a method (`invoke`). -/
def invoke (jvm : Interface ω) (target : Value) (method : String) (args : List Value) :
    Hosted ω Value := do
  let bound ← boundMethod jvm target method
  reporting (fun fault => isThrown fault || fault.isTypeFault) (callFault jvm)
    (Interface.callMember bound args)

/-- Call the factory of a class of boxes. -/
def valueOf (jvm : Interface ω) (className : String) (v : Value) : Hosted ω Value := do
  jvm.callMethod (← jvm.findClass className) "valueOf" [v]

/-- Turn a primitive into an object (`box`). Numbers and texts of derived classes are boxed as such. -/
def box (jvm : Interface ω) (v : Value) : Hosted ω Value :=
  match v.plain with
  | .nil => return .nil
  | .bool b => valueOf jvm "java.lang.Boolean" (.bool b)
  | .int n =>
    if (Primitive.int n).FitsLong then valueOf jvm "java.lang.Long" (.int n)
    else throw ((Primitive.int n).outOfRange "" " does not fit in a java.lang.Long")
  | .float x => valueOf jvm "java.lang.Double" (.float x)
  | .text s => jvm.string s
  | _ => throw (.standard .type ("Cannot box " ++ v.typeName ++ " for the JVM"))

/-- Carry a call out. -/
def perform (jvm : Interface ω) (t : ThreadId) : Call → Hosted ω Value
  | .attach => attachThread jvm t
  | .detach => detachThread jvm t
  | .staticClass name => staticClass jvm name
  | .field target name => field jvm target name
  | .invoke target method args => invoke jvm target method args
  | .box v => box jvm v
  | .unbox ref => unbox jvm ref

end HostBridge.Jvm
