import HostBridge.Bridge.Hosts
import HostBridge.Jvm.Script
import HostBridge.Proofs.Invoking

/-!
# Primitives there and back

Which values can be passed in a call is decided twice: when an argument is made, and when the backend of a
virtual machine boxes it. Both decide alike. What is boxed comes back as the same primitive, as long as the
machine's own boxes keep what they are made from; an object of a class that is derived from that of a primitive comes
back as the primitive.
-/

namespace HostBridge

variable {ω α β : Type}

/-- From each of these worlds the work gives the value at once, and leaves one of them. -/
def Hosted.Gives (ready : ω → Prop) (p : Hosted ω α) (a : α) : Prop :=
  ∀ w, ready w → ∃ w', ready w' ∧ p w = .answer w' (.ok a)

namespace Hosted.Gives

variable {ready : ω → Prop} {p : Hosted ω α} {a : α}

/-- A value is given at once. -/
theorem pure (a : α) : Gives ready (Pure.pure a : Hosted ω α) a := fun w h => ⟨w, h, rfl⟩

private theorem bind {f : α → Hosted ω β} {b : β} (first : Gives ready p a) (rest : Gives ready (f a) b) :
    Gives ready (p >>= f) b := by
  intro w h
  obtain ⟨w₁, h₁, came⟩ := first w h
  obtain ⟨w₂, h₂, came'⟩ := rest w₁ h₁
  refine ⟨w₂, h₂, ?_⟩
  change (p w).bind f = _
  rw [came]
  exact came'

end Hosted.Gives

namespace Jvm

/-! ### The machine's own boxes -/

/-- The object belongs to this class, and to no other. -/
def IsOf (className : String) (o : Value) : Prop :=
  ∀ name, isInstance o (.javaClass name) = (className == name)

namespace Interface

/-- The factory of the class makes an object of the class from the primitive, and the object gives the
primitive back. -/
def Keeps (jvm : Interface ω) (ready : ω → Prop) (className getter : String) (p : Primitive) : Prop :=
  ∃ o, (jvm.callMethod (.javaClass className) "valueOf" [.prim p]).Gives ready o ∧ IsOf className o ∧
    (jvm.callMethod o getter []).Gives ready (.prim p)

/-- While the machine is in one of these worlds, its classes of boxes are found, and its boxes keep what
they are made from. -/
structure KeepsPrimitives (jvm : Interface ω) (ready : ω → Prop) : Prop where
  finds : ∀ name ∈ boxClasses.map Prod.fst, (jvm.findClass name).Gives ready (.javaClass name)
  bool : ∀ b, jvm.Keeps ready "java.lang.Boolean" "booleanValue" (.bool b)
  int : ∀ n, (Primitive.int n).FitsLong → jvm.Keeps ready "java.lang.Long" "longValue" (.int n)
  float : ∀ x, jvm.Keeps ready "java.lang.Double" "doubleValue" (.float x)
  text : ∀ s, ∃ o, (jvm.string s).Gives ready o ∧ IsOf "java.lang.String" o ∧ (jvm.display o).Gives ready s

end Interface

/-! ### Out of the box -/

section Unboxing

variable {jvm : Interface ω} {ready : ω → Prop}

/-- The classes of boxes are tried in order, and the first one that the object belongs to decides. -/
theorem unboxWith_gives {className : String} {kind : BoxKind} {o v : Value} (of : IsOf className o)
    (taken : (takeOut jvm o kind).Gives ready v) {classes : List (String × BoxKind)}
    (finds : ∀ name ∈ classes.map Prod.fst, (jvm.findClass name).Gives ready (.javaClass name))
    (listed : classes.lookup className = some kind) : (unboxWith jvm o classes).Gives ready v := by
  induction classes with
  | nil => cases listed
  | cons entry rest ih =>
    obtain ⟨name, tried⟩ := entry
    have found := finds name List.mem_cons_self
    refine found.bind ?_
    rw [of name]
    cases same : className == name with
    | true =>
      rw [List.lookup_cons, same] at listed
      cases listed
      exact taken
    | false =>
      rw [List.lookup_cons, same] at listed
      exact ih (fun other there => finds other (List.mem_cons_of_mem _ there)) listed

private theorem unbox_eq_unboxWith {className : String} {o : Value} (of : IsOf className o) :
    unbox jvm o = unboxWith jvm o boxClasses := by
  cases o with
  | prim p => simpa [isInstance] using of className
  | _ => rfl

private theorem unbox_gives {className : String} (kind : BoxKind) {o v : Value}
    (standard : jvm.KeepsPrimitives ready) (of : IsOf className o)
    (taken : (takeOut jvm o kind).Gives ready v) (listed : boxClasses.lookup className = some kind) :
    (unbox jvm o).Gives ready v := by
  rw [unbox_eq_unboxWith of]
  exact unboxWith_gives of taken standard.finds listed

/-- The value is boxed, and comes out of the box again, with the class of a primitive. -/
def ComesBack (jvm : Interface ω) (ready : ω → Prop) (v : Value) : Prop :=
  ∃ o, (box jvm v).Gives ready o ∧ (unbox jvm o).Gives ready v.plain

private theorem comesBack_of_keeps {className getter : String} (kind : BoxKind) {p : Primitive}
    (standard : jvm.KeepsPrimitives ready) (keeps : jvm.Keeps ready className getter p)
    (boxed : box jvm (.prim p) = valueOf jvm className (.prim p))
    (taken : ∀ o, (jvm.callMethod o getter []).Gives ready (.prim p) →
      (takeOut jvm o kind).Gives ready (.prim p))
    (listed : boxClasses.lookup className = some kind) : ComesBack jvm ready (.prim p) := by
  obtain ⟨o, made, of, gives⟩ := keeps
  refine ⟨o, ?_, unbox_gives kind standard of (taken o gives) listed⟩
  rw [boxed]
  obtain ⟨before, after, split, -⟩ := List.lookup_eq_some_iff.mp listed
  have found : className ∈ boxClasses.map Prod.fst := by simp [split]
  exact (standard.finds className found).bind made

private theorem comesBack (standard : jvm.KeepsPrimitives ready) {p : Primitive} (fits : p.FitsLong) :
    ComesBack jvm ready (.prim p) := by
  cases p with
  | nil => exact ⟨.nil, .pure _, .pure _⟩
  | bool b =>
    refine comesBack_of_keeps .bool standard (standard.bool b) rfl (fun o gives => ?_) rfl
    exact gives.bind (.pure _)
  | int n =>
    refine comesBack_of_keeps .int standard (standard.int n fits) (if_pos fits)
      (fun o gives => ?_) rfl
    exact gives.bind (.pure _)
  | float x =>
    refine comesBack_of_keeps .float standard (standard.float x) rfl (fun o gives => ?_) rfl
    exact gives.bind (.pure _)
  | text s =>
    obtain ⟨o, made, of, shown⟩ := standard.text s
    refine ⟨o, made, unbox_gives .text standard of ?_ rfl⟩
    exact shown.bind (.pure _)

end Unboxing

end Jvm

/-! ### Two decisions that agree -/

/-- Opaque values, callables and call arguments stand for something of the bridge's own. -/
def Value.IsOfBridge : Value → Prop
  | .owner _ | .callable _ | .argument _ => True
  | _ => False

/-- No argument is made of the value, with a fault of this class. -/
def Argument.Refuses (className : String) (v : Value) : Prop :=
  ∃ fault, ofValue v = .error fault ∧ fault.className = className

/-- The machine does not box the value in this world, with a fault of this class. -/
def Jvm.Refuses (jvm : Jvm.Interface ω) (w : ω) (className : String) (v : Value) : Prop :=
  ∃ fault w', Jvm.box jvm v w = .answer w' (.error fault) ∧ fault.className = className

private theorem Value.scalar_cases {v : Value} (plain : ¬ v.IsOfBridge) :
    (∃ s, v = .ofScalar s) ∨ ((∀ p, v.plain ≠ .prim p) ∧
      Argument.ofValue v = .error (.standard .type ("Unsupported invocation argument type: " ++ v.typeName)) ∧
      ∀ jvm : Jvm.Interface ω,
        Jvm.box jvm v = throw (.standard .type ("Cannot box " ++ v.typeName ++ " for the JVM"))) := by
  cases v with
  | prim p => exact .inl ⟨.plain p, rfl⟩
  | derived className base => exact .inl ⟨.derived className base, rfl⟩
  | owner | callable | argument => exact (plain trivial).elim
  | _ => exact .inr ⟨fun _ same => (nomatch same), rfl, fun _ => rfl⟩

private theorem Value.plain_ofScalar (s : Scalar) : (ofScalar s).plain = .prim s.primitive := by
  cases s <;> rfl

private theorem Argument.ofScalar_of_fits {s : Scalar} (fits : s.primitive.FitsLong) :
    ofScalar s = .ok (.primitive s fits) := dif_pos fits

private theorem Primitive.exists_int_of_not_fits {p : Primitive} (tooLong : ¬ p.FitsLong) : ∃ n, p = .int n := by
  cases p with
  | int n => exact ⟨n, rfl⟩
  | _ => exact (tooLong trivial).elim

private theorem Jvm.box_ofScalar (jvm : Jvm.Interface ω) (s : Scalar) :
    Jvm.box jvm (.ofScalar s) = Jvm.box jvm (.prim s.primitive) := by
  cases s with
  | plain p => rfl
  | derived className base => cases base <;> rfl

/-- What fits comes back. -/
theorem Jvm.comesBack_ofScalar {jvm : Jvm.Interface ω} {ready : ω → Prop} (standard : jvm.KeepsPrimitives ready)
    {s : Scalar} (fits : s.primitive.FitsLong) : ComesBack jvm ready (.ofScalar s) := by
  obtain ⟨o, boxed, unboxed⟩ := comesBack standard fits
  refine ⟨o, ?_, ?_⟩
  · rw [box_ofScalar]
    exact boxed
  · rw [Value.plain_ofScalar]
    exact unboxed

/-- What does not fit is not boxed. -/
theorem Jvm.box_of_not_fits (jvm : Jvm.Interface ω) {p : Primitive} (tooLong : ¬ p.FitsLong) :
    Jvm.box jvm (.prim p) = throw (p.outOfRange "" " does not fit in a java.lang.Long") := by
  obtain ⟨n, rfl⟩ := Primitive.exists_int_of_not_fits tooLong
  exact if_neg tooLong

/-- The class of the fault of an integer out of range depends on whether it can be shown. -/
theorem Primitive.className_outOfRange (p : Primitive) (opening complaint : String) :
    (p.outOfRange opening complaint).className =
      if p.exceedsDigits = true then "ValueError" else "OverflowError" := by
  unfold outOfRange
  split <;> rfl

/-- The two decisions about a value agree, and a value that both admit comes back from its box, with the class of a
primitive. Integers that are too long to be shown are left out where it matters why they are refused. -/
structure Jvm.Marshals (jvm : Jvm.Interface ω) (ready : ω → Prop) (v : Value) : Prop where
  wrongKind_iff : ∀ w, ready w → (Argument.Refuses "TypeError" v ↔ Jvm.Refuses jvm w "TypeError" v)
  tooLarge_iff : ∀ w, ready w → (Argument.Refuses "OverflowError" v ↔ Jvm.Refuses jvm w "OverflowError" v)
  tooLarge_iff_int : v.exceedsDigits = false → (Argument.Refuses "OverflowError" v ↔
    ∃ n : Int, v.plain = .int n ∧ ¬ (-9223372036854775808 ≤ n ∧ n ≤ 9223372036854775807))
  comesBack : v.exceedsDigits = false → ¬ Argument.Refuses "TypeError" v → ¬ Argument.Refuses "OverflowError" v →
    Jvm.ComesBack jvm ready v

section Agreement

variable {jvm : Jvm.Interface ω} {ready : ω → Prop}

private theorem Argument.not_refuses_of_fits {s : Scalar} (fits : s.primitive.FitsLong) (className : String) :
    ¬ Refuses className (.ofScalar s) := by
  rintro ⟨fault, refused, -⟩
  rw [ofValue_ofScalar, ofScalar_of_fits fits] at refused
  cases refused

private theorem Jvm.ComesBack.not_refuses {v : Value} (back : ComesBack jvm ready v) {w : ω} (h : ready w)
    (className : String) : ¬ Refuses jvm w className v := by
  rintro ⟨fault, w', refused, -⟩
  obtain ⟨o, boxed, -⟩ := back
  obtain ⟨w₁, -, came⟩ := boxed w h
  rw [refused] at came
  cases came

/-- A refusal of an argument has the class of its fault. -/
theorem Argument.refuses_iff {v : Value} {fault : Fault} (refused : ofValue v = .error fault)
    (className : String) : Refuses className v ↔ fault.className = className := by
  constructor
  · rintro ⟨fault', refused', named⟩
    rw [refused] at refused'
    cases refused'
    exact named
  · exact fun named => ⟨fault, refused, named⟩

/-- So has a refusal of the machine. -/
theorem Jvm.refuses_iff {v : Value} {fault : Fault} (refused : box jvm v = throw fault) (w : ω)
    (className : String) : Refuses jvm w className v ↔ fault.className = className := by
  constructor
  · rintro ⟨fault', w', refused', named⟩
    rw [refused] at refused'
    cases refused'
    exact named
  · exact fun named => ⟨fault, w, by rw [refused]; rfl, named⟩

private theorem Primitive.fitsLong_int_iff (n : Int) :
    (Primitive.int n).FitsLong ↔ -9223372036854775808 ≤ n ∧ n ≤ 9223372036854775807 := by
  have bound : (Number.twoTo 63 : Int) = 9223372036854775808 := by decide
  rw [FitsLong, leastLong, greatestLong, bound]
  rfl

private theorem Jvm.marshals_of_fits (keeps : jvm.KeepsPrimitives ready) {s : Scalar} (fits : s.primitive.FitsLong) :
    Marshals jvm ready (.ofScalar s) where
  wrongKind_iff w h := iff_of_false (Argument.not_refuses_of_fits fits _)
    ((Jvm.comesBack_ofScalar keeps fits).not_refuses h _)
  tooLarge_iff w h := iff_of_false (Argument.not_refuses_of_fits fits _)
    ((Jvm.comesBack_ofScalar keeps fits).not_refuses h _)
  tooLarge_iff_int _ := by
    refine iff_of_false (Argument.not_refuses_of_fits fits _) ?_
    rintro ⟨n, same, tooLong⟩
    rw [Value.plain_ofScalar] at same
    rw [Value.prim.inj same] at fits
    exact tooLong ((Primitive.fitsLong_int_iff n).mp fits)
  comesBack _ _ _ := Jvm.comesBack_ofScalar keeps fits

private theorem Jvm.marshals_of_not_fits {s : Scalar} (tooLong : ¬ s.primitive.FitsLong) :
    Marshals jvm ready (.ofScalar s) := by
  have passed (className : String) : Argument.Refuses className (.ofScalar s) ↔ _ :=
    Argument.refuses_iff ((Argument.ofValue_ofScalar s).trans (Argument.ofScalar_of_not_fits tooLong)) className
  have boxed (w : ω) (className : String) : Jvm.Refuses jvm w className (.ofScalar s) ↔ _ :=
    Jvm.refuses_iff ((Jvm.box_ofScalar jvm s).trans (Jvm.box_of_not_fits jvm tooLong)) w className
  simp only [Primitive.tooLong, Primitive.className_outOfRange] at passed boxed
  have tooLarge (shown : (Value.ofScalar s).exceedsDigits = false) :
      Argument.Refuses "OverflowError" (.ofScalar s) := by
    rw [Value.exceedsDigits, Value.plain_ofScalar] at shown
    rw [passed, if_neg (ne_true_of_eq_false shown)]
  obtain ⟨n, same⟩ := Primitive.exists_int_of_not_fits tooLong
  rw [same] at tooLong
  exact
    { wrongKind_iff := fun w _ => (passed _).trans (boxed w _).symm
      tooLarge_iff := fun w _ => (passed _).trans (boxed w _).symm
      tooLarge_iff_int := fun shown => iff_of_true (tooLarge shown)
        ⟨n, by rw [Value.plain_ofScalar, same], fun inside => tooLong ((Primitive.fitsLong_int_iff n).mpr inside)⟩
      comesBack := fun shown _ within => (within (tooLarge shown)).elim }

private theorem Jvm.marshals_of_other {v : Value} (other : ∀ p, v.plain ≠ .prim p) {passing boxing : String}
    (refused : Argument.ofValue v = .error (.standard .type passing))
    (unboxed : box jvm v = throw (.standard .type boxing)) : Marshals jvm ready v := by
  have passed := Argument.refuses_iff refused
  have boxed := Jvm.refuses_iff unboxed
  have wrongKind : Argument.Refuses "TypeError" v := (passed _).mpr rfl
  refine
    { wrongKind_iff := fun w _ => (passed _).trans (boxed w _).symm
      tooLarge_iff := fun w _ => (passed _).trans (boxed w _).symm
      tooLarge_iff_int := fun _ => ?_
      comesBack := fun _ right _ => (right wrongKind).elim }
  constructor
  · intro tooLarge
    have same : "TypeError" = "OverflowError" := (passed _).mp tooLarge
    exact absurd same (by decide)
  · rintro ⟨n, same, -⟩
    exact (other (.int n) same).elim

/-- A machine with boxes that keep primitives marshals every value that is not of the bridge. -/
theorem Jvm.Interface.KeepsPrimitives.marshals (keeps : jvm.KeepsPrimitives ready) {v : Value}
    (plain : ¬ v.IsOfBridge) : Jvm.Marshals jvm ready v := by
  rcases v.scalar_cases plain with ⟨s, rfl⟩ | ⟨other, refused, unboxed⟩
  · by_cases fits : s.primitive.FitsLong
    · exact Jvm.marshals_of_fits keeps fits
    · exact Jvm.marshals_of_not_fits fits
  · exact Jvm.marshals_of_other other refused (unboxed jvm)

end Agreement

/-! ### Arguments that were made -/

/-- The host that carries every call out on the machine. -/
def Jvm.Interface.program (jvm : Jvm.Interface ω) : HostProgram ω := fun _ t _ call => Jvm.perform jvm t call

section Arguments

open HostBridge.Action (toHost)

variable {jvm : Jvm.Interface ω} {ready : ω → Prop}

private theorem runOn_serve_box (keeps : jvm.KeepsPrimitives ready) {answer : Request → Action ω Value}
    (lines : TakesLines answer) (level : Nat) (through? : Option HandleId) (b : BackendId) {p : Scalar}
    (fits : p.primitive.FitsLong) (t : ThreadId) {s : State ω} (h : ready s.world) :
    ∃ o s', (jvm.program.serve answer level through? b (.box (.ofScalar p))).runOn t s = (.ok o, s') := by
  obtain ⟨o, boxed, -⟩ := Jvm.comesBack_ofScalar keeps fits
  obtain ⟨w, -, came⟩ := boxed s.world h
  have direct : (jvm.program s.view t b (.box (.ofScalar p)) s.world).Direct (· = .ok o) := by
    change (Jvm.box jvm (.ofScalar p) s.world).Direct _
    rw [came]
    rfl
  obtain ⟨result, w', l, rfl, ran⟩ :=
    HostProgram.runOn_serve_of_direct jvm.program level lines through? direct
  exact ⟨o, _, ran⟩

/-- The host answers requests for lines in the log. -/
theorem takesLines_answers (program : HostProgram ω) (level : Nat) : TakesLines (program.answers level) := by
  cases level with
  | zero => exact fun _ => rfl
  | succ level => exact fun _ => rfl

/-- An argument that was made is handed over, unless its value has been released or the handle is not
live. -/
theorem kind_of_toHost_error (keeps : jvm.KeepsPrimitives ready) (level : Nat) (rt : HandleId)
    (a : Argument) (t : ThreadId) {s s' : State ω} {fault : Fault} (h : ready s.world)
    (failed : (toHost (jvm.program.host level) rt a).runOn t s = (.error fault, s')) :
    fault.kind? = some .releasedValue ∨ fault.kind? = some .bridge := by
  cases a with
  | reference id =>
    cases owned : s.view id with
    | some v =>
      rw [toHost, Action.runOn_reference_of_owned owned] at failed
      cases failed
    | none =>
      rw [toHost, Action.runOn_reference_of_released owned] at failed
      cases failed
      exact .inl rfl
  | primitive p fits =>
    by_cases live : s.Live t rt
    · obtain ⟨b, reached⟩ := Action.runOn_cross_of_live (jvm.program.host level) live (.box (.ofScalar p))
      obtain ⟨o, s₁, boxed⟩ := runOn_serve_box keeps (takesLines_answers jvm.program level) level (some rt)
        b fits t h
      rw [← HostProgram.host_eq_serve, ← reached] at boxed
      rw [toHost, Action.box, boxed] at failed
      cases failed
    · obtain ⟨message, refused⟩ := Action.runOn_checked_of_not_live live
      rw [toHost, Action.box, Action.runOn_cross_error _ _ refused] at failed
      cases failed
      exact .inr rfl

end Arguments

/-- The class of a fault of the bridge has the name of its kind. -/
theorem Fault.className_of_kind {fault : Fault} {kind : BridgeKind} (bridge : fault.kind? = some kind) :
    fault.className = kind.className := by
  cases fault with
  | bridge kind' message hostClass hostMessage cause =>
    cases bridge
    rfl
  | _ => cases bridge

/-! ### A machine without a script of its own -/

namespace Jvm.Script

/-- The machine has been started, and all its classes are as they come. -/
structure IsPlain (s : Script) : Prop where
  started : s.started = true
  classFaults : s.classFaults = []
  classes : s.classes = []

private theorem findClass_gives {name : String} (there : alwaysExists name = true) :
    (findClass name).Gives IsPlain (.javaClass name) := by
  intro s plain
  refine ⟨s, plain, ?_⟩
  simp only [findClass, failIf]
  change Reply.bind (.answer s (.ok s)) _ = _
  simp only [Reply.bind, plain.started, plain.classFaults, there, List.lookup_nil]
  rfl

private theorem member_gives {target : Value} {name : String} {a : Member Script}
    (there : ∀ s, IsPlain s → s.member? target name = some a) :
    (interface.member target name).Gives IsPlain a := by
  intro s plain
  refine ⟨s, plain, ?_⟩
  simp only [interface]
  change Reply.bind (.answer s (.ok s)) _ = _
  simp only [Reply.bind, there s plain]
  rfl

private theorem scripted?_of_isPlain {s : Script} (plain : s.IsPlain) (toObject : Bool) (className name : String)
    (run : Method → List Value → Hosted Script Value) : s.scripted? toObject className name run = none := by
  rw [scripted?, plain.classes]
  rfl

private theorem classMember?_valueOf {className : String} (maker : boxMakers.contains className = true) :
    ∃ receiver call, classMember? className "valueOf" = some (.method receiver call) ∧
      ∀ v, call [v] = pure (.javaObject className v) :=
  ⟨_, _, (if_neg (by decide)).trans (if_pos maker), fun _ => rfl⟩

private theorem objectMember?_getter {getter : String}
    (listed : getter ∈ ["booleanValue", "longValue", "doubleValue"]) (className : String) (payload : Value) :
    objectMember? className getter payload = some (giving className getter payload) := by
  have other : ¬ (getter == "getClass") = true := by
    rw [beq_iff_eq]
    rintro rfl
    exact absurd listed (by decide)
  exact (if_neg other).trans (if_pos (List.contains_iff_mem.mpr listed))

private theorem keeps {className getter : String} (p : Primitive) (maker : boxMakers.contains className = true)
    (listed : getter ∈ ["booleanValue", "longValue", "doubleValue"]) :
    interface.Keeps IsPlain className getter p := by
  refine ⟨.javaObject className (.prim p), ?_, fun _ => rfl, ?_⟩
  · obtain ⟨receiver, call, there, made⟩ := classMember?_valueOf maker
    refine (member_gives (a := .method receiver call) fun s plain => ?_).bind ?_
    · rw [member?, scripted?_of_isPlain plain, there]
      rfl
    · rw [Interface.callMember, made]
      exact .pure _
  · refine (member_gives (a := giving className getter (.prim p)) fun s plain => ?_).bind (.pure _)
    rw [member?, scripted?_of_isPlain plain, objectMember?_getter listed]
    rfl

/-- A plain machine keeps all primitives. -/
theorem keepsPrimitives : interface.KeepsPrimitives IsPlain where
  finds name listed := by
    have all : ∀ name ∈ boxClasses.map Prod.fst, alwaysExists name = true := by decide +kernel
    exact findClass_gives (all name listed)
  bool b := keeps (.bool b) (by decide) (by decide)
  int n _ := keeps (.int n) (by decide) (by decide)
  float x := keeps (.float x) (by decide) (by decide)
  text s := ⟨.javaObject "java.lang.String" (.text s), .pure _, fun _ => rfl, fun w plain => ⟨w, plain, rfl⟩⟩

end Jvm.Script

/-! ### The contract -/

/-- On a machine whose boxes keep what they are made from, making an argument and boxing agree about every
value that is not of the bridge: which are of the wrong kind, which are too large, and the others come back
from their boxes as primitives. So no argument that was made is refused by the machine as being of the wrong kind or
too large. -/
theorem marshals_every_value {jvm : Jvm.Interface ω} {ready : ω → Prop} (keeps : jvm.KeepsPrimitives ready) :
    (∀ v : Value, ¬ v.IsOfBridge → Jvm.Marshals jvm ready v) ∧
      ∀ (level : Nat) (rt : HandleId) (a : Argument) (t : ThreadId) (s s' : State ω) (fault : Fault),
        ready s.world → (Action.toHost (jvm.program.host level) rt a).runOn t s = (.error fault, s') →
          fault.className ≠ "TypeError" ∧ fault.className ≠ "OverflowError" := by
  refine ⟨fun v plain => keeps.marshals plain, fun level rt a t s s' fault h failed => ?_⟩
  rcases kind_of_toHost_error keeps level rt a t h failed with released | notLive
  · rw [Fault.className_of_kind released]
    decide
  · rw [Fault.className_of_kind notLive]
    decide

/-- A plain machine marshals every value. -/
theorem marshals_every_value_plain :
    Jvm.Script.IsPlain { Jvm.Script.idle with started := true } ∧
      Jvm.Script.interface.KeepsPrimitives Jvm.Script.IsPlain ∧
      (∀ v : Value, ¬ v.IsOfBridge → Jvm.Marshals Jvm.Script.interface Jvm.Script.IsPlain v) ∧
      ∀ (level : Nat) (rt : HandleId) (a : Argument) (t : ThreadId) (s s' : State Jvm.Script) (fault : Fault),
        s.world.IsPlain →
          (Action.toHost (Jvm.Script.interface.program.host level) rt a).runOn t s = (.error fault, s') →
            fault.className ≠ "TypeError" ∧ fault.className ≠ "OverflowError" :=
  ⟨⟨rfl, rfl, rfl⟩, Jvm.Script.keepsPrimitives, marshals_every_value Jvm.Script.keepsPrimitives⟩

/-- A length, of a class of its own. -/
def length : Value := .derived "Length" (.int 3)

/-- Not every value is marshalled as it is. An integer that is too long to be shown is refused on both sides, but not
for being too large; and an object of a class that is derived from that of integers is passed and boxed, but comes out
of its box as an integer. -/
theorem long_integers_and_derived_classes_are_not_marshalled :
    (longInteger > 9223372036854775807 ∧ Argument.Refuses "ValueError" (.int longInteger) ∧
      ¬ Argument.Refuses "OverflowError" (.int longInteger) ∧
      Jvm.Refuses Jvm.Script.interface { Jvm.Script.idle with started := true } "ValueError" (.int longInteger)) ∧
    (Argument.ofValue length = .ok (.primitive (.derived "Length" (.int 3)) (by decide)) ∧
      (∃ o, (Jvm.box Jvm.Script.interface length).Gives Jvm.Script.IsPlain o ∧
        (Jvm.unbox Jvm.Script.interface o).Gives Jvm.Script.IsPlain (.int 3)) ∧ length ≠ .int 3) := by
  have refused := Argument.refuses_iff ofValue_longInteger
  have unboxed := Jvm.refuses_iff (Jvm.box_of_not_fits Jvm.Script.interface not_fitsLong_longInteger)
  simp only [Primitive.className_outOfRange, exceedsDigits_longInteger, if_true] at unboxed
  have large : longInteger > 9223372036854775807 := by
    have bound : Number.tenTo 19 ≤ Number.tenTo digitLimit := Number.tenTo_le_tenTo (by decide)
    have greatest : (9223372036854775807 : Int) < (Number.tenTo 19 : Nat) := by decide
    unfold longInteger
    omega
  have notPlain : length ≠ .int 3 := by
    intro same
    cases same
  have fits : (Scalar.derived "Length" (.int 3)).primitive.FitsLong := by decide
  exact ⟨⟨large, (refused _).mpr rfl, fun large => absurd ((refused _).mp large) (by decide), (unboxed _ _).mpr rfl⟩,
    rfl, Jvm.comesBack_ofScalar Jvm.Script.keepsPrimitives fits, notPlain⟩

end HostBridge
