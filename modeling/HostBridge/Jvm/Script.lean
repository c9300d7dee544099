import HostBridge.Jvm.Backend

/-!
# A scripted machine

A virtual machine that follows a script: which classes there are, what their fields hold, what their
methods do, and which calls fail. It notes the calls that it sees. All threads share one attachment.
-/

namespace HostBridge.Jvm

/-- What a scripted method does. -/
inductive Behaviour where
  | give (v : Value)
  /-- Gives its arguments. -/
  | echo
  | fail (fault : Fault)

/-- A scripted method. -/
structure Method where
  /-- Does it belong to the objects of its class? -/
  ofObjects : Bool
  /-- What it does. -/
  action : Behaviour

/-- A scripted class. -/
structure ClassScript where
  /-- Its fields. -/
  fields : List (String × Value)
  /-- Its methods. -/
  methods : List (String × Method)

/-- A call that the machine saw. -/
inductive Sighting where
  | ofThread (call : String) (t : ThreadId)
  | ofMethod (name : String) (args : List Value)

/-- A scripted machine. -/
structure Script where
  /-- Has it been started? -/
  started : Bool
  /-- Are threads attached? -/
  attached : Bool
  /-- How asking for the attachment fails. -/
  isAttachedFault? : Option Fault
  /-- How attaching fails. -/
  attachFault? : Option Fault
  /-- How detaching fails. -/
  detachFault? : Option Fault
  /-- Which classes cannot be found, and why. -/
  classFaults : List (String × Fault)
  /-- The classes. -/
  classes : List (String × ClassScript)
  /-- The calls it saw, latest first. -/
  seen : List Sighting
  /-- What the opaque values own, as far as the machine was told. -/
  owned : OpaqueView

namespace Script

/-- A machine that was never started. -/
def idle : Script :=
  { started := false, attached := false, isAttachedFault? := none, attachFault? := none
    detachFault? := none, classFaults := [], classes := [], seen := []
    owned := fun _ => none }

/-- Note a call. -/
def note (sighting : Sighting) : Hosted Script Unit :=
  modify fun s => { s with seen := sighting :: s.seen }

/-- Fail if there is a fault. -/
def failIf (fault? : Option Fault) : Hosted Script Unit :=
  match fault? with
  | some fault => throw fault
  | none => return

/-- Classes of the machine and of the hosted language always exist. -/
def alwaysExists (name : String) : Bool :=
  "java.".isPrefixOf name || "clojure.".isPrefixOf name

/-- Find a class. -/
def findClass (name : String) : Hosted Script Value := do
  let s ← get
  if !s.started then throw (.standard .runtime "Java Virtual Machine is not running")
  failIf (s.classFaults.lookup name)
  if alwaysExists name || (s.classes.lookup name).isSome then return .javaClass name
  throw (.standard .type ("Class " ++ name ++ " is not found"))

/-- Call a scripted method. -/
def call (className name : String) (action : Behaviour) (args : List Value) : Hosted Script Value := do
  note (.ofMethod (className ++ "." ++ name) args)
  match action with
  | .give v => return v
  | .echo => return .list args
  | .fail fault => throw fault

/-- A scripted method on a class: one that belongs to objects takes its object as first argument. -/
def onClass (className name : String) (m : Method) (args : List Value) : Hosted Script Value :=
  if m.ofObjects then
    match args with
    | [] => throw (.misuse .type (name ++ "() missing 1 required positional argument: 'self'"))
    | _ :: args => call className name m.action args
  else call className name m.action args

/-- A method of an object or a class that takes no arguments. -/
def giving (className name : String) (v : Value) : Member Script :=
  .method (.javaMethod true className name) fun args => match args with
    | [] => return v
    | _ => throw (.misuse .type "takes no arguments")

/-- The attributes that objects have without a script. -/
def objectMember? (className name : String) (payload : Value) : Option (Member Script) :=
  if name == "getClass" then some (giving className name (.javaClass className))
  else if ["booleanValue", "longValue", "doubleValue"].contains name then
    some (giving className name payload)
  else none

/-- The classes that make boxes. -/
def boxMakers : List String := ["java.lang.Boolean", "java.lang.Long", "java.lang.Double"]

/-- The attributes that classes have without a script. -/
def classMember? (className name : String) : Option (Member Script) :=
  if name == "getName" then some (giving className name (.text className))
  else if name == "valueOf" && boxMakers.contains className then
    some (.method (.javaMethod false className name) fun args => match args with
      | [v] => return .javaObject className v
      | _ => throw (.misuse .type "takes one argument"))
  else none

/-- The attribute that a class script gives to the class, or to its objects. -/
def scripted? (s : Script) (toObject : Bool) (className name : String)
    (run : Method → List Value → Hosted Script Value) : Option (Member Script) :=
  (s.classes.lookup className).bind fun c =>
    match c.fields.lookup name with
    | some v => some (.field v)
    | none => (c.methods.lookup name).map fun m =>
      .method (.javaMethod (toObject && m.ofObjects) className name) (run m)

/-- The text of an absent attribute. -/
def absenceText (target : Value) (name : String) : String :=
  match target with
  | .javaClass _ => "type object 'JavaClass' has no attribute '" ++ name ++ "'"
  | v => "'" ++ v.typeName ++ "' object has no attribute '" ++ name ++ "'"

/-- An attribute of a class or an object. The script comes first. -/
def member? (s : Script) (target : Value) (name : String) : Option (Member Script) :=
  match target with
  | .javaClass c => (s.scripted? false c name (onClass c name)).or (classMember? c name)
  | .javaObject c payload =>
    (s.scripted? true c name fun m => call c name m.action).or (objectMember? c name payload)
  | _ => none

/-- What the texts of values depend on. -/
def view (s : Script) : View := ⟨s.owned, fun _ => 0⟩

/-- The interface to the scripted machine. -/
def interface : Interface Script where
  isStarted := return (← get).started
  findClass := findClass
  isAttached t := do
    note (.ofThread "isAttached" t)
    failIf (← get).isAttachedFault?
    return (← get).attached
  attach t := do
    note (.ofThread "attach" t)
    failIf (← get).attachFault?
    modify fun s => { s with attached := true }
  detach t := do
    note (.ofThread "detach" t)
    failIf (← get).detachFault?
    modify fun s => { s with attached := false }
  member target name := do
    match (← get).member? target name with
    | some a => return a
    | none => throw (.misuse .absentAttribute (absenceText target name))
  string s := return .javaObject "java.lang.String" (.text s)
  display v := do
    if v.displaysLongInteger then throw tooLongToShow
    return v.display (← get).view
  literal v := do
    if v.showsLongInteger then throw tooLongToShow
    return v.literal (← get).view
  accessorFault? _ := none

end Script

end HostBridge.Jvm
