import HostBridge.Jvm.Script

/-!
# What becomes of the exceptions of a virtual machine

A backend promises to report whatever the machine throws as a host fault. Whether it keeps the promise depends on
what it was using the machine for: each use has a handler around it, or none. To tell, the machine is watched: it
notes the exception that it throws and where it did so, and works as before. Then every way in which a call can
end says what became of the exception that was noted.
-/

namespace HostBridge

variable {ω α β γ δ : Type}

/-- Work of a watched host goes the same way as that of the host itself: it asks the bridge for the same, leaves
its note alone meanwhile, and ends in the same worlds; `ends` holds of the note and the two results. -/
inductive Reply.Mirrors {ν : Type} (ends : ν → Except Fault α → Except Fault β → Prop) :
    Reply (ω × ν) α → Reply ω β → Prop
  | answer {w : ω} {note : ν} {result : Except Fault α} {result' : Except Fault β} :
    ends note result result' → Mirrors ends (.answer (w, note) result) (.answer w result')
  | callBack {w : ω} {note : ν} {request : Request} {resume : Except Fault Value → ω × ν → Reply (ω × ν) α}
      {resume' : Except Fault Value → ω → Reply ω β} :
    (∀ result w, Mirrors ends (resume result (w, note)) (resume' result w)) →
      Mirrors ends (.callBack (w, note) request resume) (.callBack w request resume')

private theorem Reply.Mirrors.through {ν : Type} {ends : ν → Except Fault α → Except Fault β → Prop}
    {ends' : ν → Except Fault γ → Except Fault δ → Prop} {F : Reply (ω × ν) α → Reply (ω × ν) γ}
    {G : Reply ω β → Reply ω δ} {reply : Reply (ω × ν) α} {reply' : Reply ω β} (mirrors : reply.Mirrors ends reply')
    (left : ∀ whole request resume,
      F (.callBack whole request resume) = .callBack whole request fun result whole => F (resume result whole))
    (right : ∀ w request resume,
      G (.callBack w request resume) = .callBack w request fun result w => G (resume result w))
    (leaf : ∀ w note result result', ends note result result' →
      (F (.answer (w, note) result)).Mirrors ends' (G (.answer w result'))) :
    (F reply).Mirrors ends' (G reply') := by
  induction mirrors with
  | answer holds => exact leaf _ _ _ _ holds
  | callBack _ ih =>
    rw [left, right]
    exact .callBack ih

namespace Jvm

/-! ### Watching a machine -/

/-- What a backend uses a machine for. -/
inductive Site where
  /-- Looking a class up. -/
  | lookup
  /-- Attaching threads. -/
  | attachment
  /-- Reading an attribute. -/
  | attribute
  /-- Calling a method. -/
  | call
  /-- Turning a text into an object, or an object into a text. -/
  | conversion
  /-- Naming an object in a message. -/
  | naming
deriving DecidableEq, Repr

/-- The exception that the machine has thrown, if any, and what it was used for. -/
abbrev Note := Option (Site × Fault)

/-- Pass a fault on, and note it if it is an exception of the machine. -/
def noteFault (site : Site) (fault : Fault) : Hosted (ω × Note) α := do
  if isThrown fault then modify fun whole => (whole.1, some (site, fault))
  throw fault

/-- Use the machine, and note an exception that it throws. -/
def noting (site : Site) (p : Hosted ω α) : Hosted (ω × Note) α :=
  tryCatch (p.zoom Prod.fst fun whole w => (w, whole.2)) (noteFault site)

/-- An attribute of a watched machine: to call it is to use the machine. -/
def Member.watched : Member ω → Member (ω × Note)
  | .field v => .field v
  | .method receiver call => .method receiver fun args => noting .call (call args)

/-- The machine, which now notes what it throws. -/
def Interface.watched (jvm : Interface ω) : Interface (ω × Note) where
  isStarted := noting .attachment jvm.isStarted
  findClass name := noting .lookup (jvm.findClass name)
  isAttached t := noting .attachment (jvm.isAttached t)
  attach t := noting .attachment (jvm.attach t)
  detach t := noting .attachment (jvm.detach t)
  member target name := Member.watched <$> noting .attribute (jvm.member target name)
  string s := noting .conversion (jvm.string s)
  display v := noting .conversion (jvm.display v)
  literal v := noting .naming (jvm.literal v)
  accessorFault? := jvm.accessorFault?

/-- What may become of an exception, by what the machine was used for. -/
abbrev Fate := Site → Fault → Fault → Prop

/-- How work on a watched machine ends. If nothing is noted, it ends with a value, or with a fault that is no
exception of the machine. If an exception is noted, it ends with what becomes of that. -/
inductive Ends (fate : Fate) (same : α → β → Prop) : Note → Except Fault α → Except Fault β → Prop
  | value {a : α} {b : β} : same a b → Ends fate same none (.ok a) (.ok b)
  | failed {fault : Fault} : isThrown fault = false → Ends fate same none (.error fault) (.error fault)
  | thrown {site : Site} {fault fault' : Fault} : isThrown fault = true → fate site fault fault' →
    Ends fate same (some (site, fault)) (.error fault') (.error fault')

/-- An outcome that is no exception of the machine. -/
def OfBackend (r : Except Fault α) : Prop := ∀ fault, r = .error fault → isThrown fault = false

/-- From a state without a note, the first work goes the way of the second one, and ends as it should. -/
def Follows (fate : Fate) (same : α → β → Prop) (p : Hosted (ω × Note) α) (q : Hosted ω β) : Prop :=
  ∀ w, (p (w, none)).Mirrors (Ends fate same) (q w)

namespace Follows

variable {fate fate' : Fate} {same : α → β → Prop} {same' : γ → δ → Prop} {p : Hosted (ω × Note) α}
  {q : Hosted ω β}

private theorem pure {a : α} {b : β} (equal : same a b) :
    Follows fate same (Pure.pure a : Hosted (ω × Note) α) (Pure.pure b : Hosted ω β) :=
  fun _ => .answer (.value equal)

private theorem throw {fault : Fault} (ofBackend : isThrown fault = false) :
    Follows fate same (MonadExcept.throw fault : Hosted (ω × Note) α) (MonadExcept.throw fault : Hosted ω β) :=
  fun _ => .answer (.failed ofBackend)

private theorem ofExcept {r : Except Fault α} (ofBackend : OfBackend r) :
    Follows fate Eq (MonadExcept.ofExcept r : Hosted (ω × Note) α) (MonadExcept.ofExcept r : Hosted ω α) := by
  cases r with
  | ok a => exact pure rfl
  | error fault => exact throw (ofBackend fault rfl)

private theorem mono (follows : Follows fate same p q)
    (wider : ∀ {site fault fault'}, isThrown fault = true → fate site fault fault' → fate' site fault fault') :
    Follows fate' same p q := by
  intro w
  refine (follows w).through (F := id) (G := id) (fun _ _ _ => rfl) (fun _ _ _ => rfl)
    fun w note result result' ends => ?_
  cases ends with
  | value equal => exact .answer (.value equal)
  | failed ofBackend => exact .answer (.failed ofBackend)
  | thrown isJava became => exact .answer (.thrown isJava (wider isJava became))

private theorem bind {f : α → Hosted (ω × Note) γ} {g : β → Hosted ω δ} (first : Follows fate same p q)
    (rest : ∀ a b, same a b → Follows fate same' (f a) (g b)) : Follows fate same' (p >>= f) (q >>= g) := by
  intro w
  refine (first w).through (F := (·.bind f)) (G := (·.bind g)) (fun _ _ _ => rfl) (fun _ _ _ => rfl)
    fun w note result result' ends => ?_
  cases ends with
  | value equal => exact rest _ _ equal w
  | failed ofBackend => exact .answer (.failed ofBackend)
  | thrown isJava became => exact .answer (.thrown isJava became)

private theorem map_left {p : Hosted (ω × Note) β} (follows : Follows fate Eq p q) (f : β → α) :
    Follows fate (fun a b => a = f b) (f <$> p) q := by
  intro w
  refine (follows w).through (F := (·.bind fun b => (Pure.pure (f b) : Hosted (ω × Note) α))) (G := id)
    (fun _ _ _ => rfl) (fun _ _ _ => rfl) fun w note result result' ends => ?_
  cases ends with
  | value equal => exact .answer (.value (congrArg f equal))
  | failed ofBackend => exact .answer (.failed ofBackend)
  | thrown isJava became => exact .answer (.thrown isJava became)

private theorem tryCatch {h : Fault → Hosted (ω × Note) α} {h' : Fault → Hosted ω β} (body : Follows fate same p q)
    (handled : ∀ fault, isThrown fault = false → Follows fate' same (h fault) (h' fault))
    (passed : ∀ {site fault fault'}, isThrown fault = true → fate site fault fault' → ∃ fault'',
      h fault' = MonadExcept.throw fault'' ∧ h' fault' = MonadExcept.throw fault'' ∧
        fate' site fault fault'') :
    Follows fate' same (MonadExcept.tryCatch p h) (MonadExcept.tryCatch q h') := by
  intro w
  refine (body w).through (F := (·.handle h)) (G := (·.handle h')) (fun _ _ _ => rfl) (fun _ _ _ => rfl)
    fun w note result result' ends => ?_
  cases ends with
  | value equal => exact .answer (.value equal)
  | failed ofBackend => exact handled _ ofBackend w
  | thrown isJava became =>
    obtain ⟨fault'', left, right, became'⟩ := passed isJava became
    change (h _ _).Mirrors _ (h' _ _)
    rw [left, right]
    exact .answer (.thrown isJava became')

private theorem reporting {condition : Fault → Bool} {report : Fault → Fault} (body : Follows fate same p q)
    (kept : ∀ fault, isThrown fault = false → isThrown (report fault) = false)
    (became : ∀ {site fault fault'}, isThrown fault = true → fate site fault fault' →
      fate' site fault (if condition fault' then report fault' else fault')) :
    Follows fate' same (Jvm.reporting condition report p) (Jvm.reporting condition report q) := by
  refine body.tryCatch (fun fault ofBackend => throw ?_) fun isThrown was =>
    ⟨_, rfl, rfl, became isThrown was⟩
  split
  · exact kept fault ofBackend
  · exact ofBackend

end Follows

/-! ### Uses of the machine -/

section Uses

variable {sites : Site → Prop} {jvm : Interface ω}

/-- Exceptions at these places come out as they are. -/
def bare (sites : Site → Prop) : Fate := fun site fault fault' => sites site ∧ fault' = fault

/-- To use the machine once is to let its exception out. -/
theorem follows_noting {site : Site} (here : sites site) (p : Hosted ω α) :
    Follows (bare sites) Eq (noting site p) p := by
  intro w
  change (((p w).zoom Prod.fst (fun whole w => (w, whole.2)) ((w, none) : ω × Note)).handle
    (noteFault site)).Mirrors (Ends (bare sites) Eq) (p w)
  generalize p w = reply
  -- The note is empty as long as the work goes on, so only the answer that ends it can fill it.
  induction reply generalizing w with
  | answer w' result =>
    cases result with
    | ok a => exact .answer (.value rfl)
    | error fault =>
      have ends : (noteFault site fault ((w', none) : ω × Note)).Mirrors (Ends (bare sites) Eq)
          (.answer w' (.error fault) : Reply ω α) := by
        unfold noteFault
        cases isJava : isThrown fault with
        | true => exact .answer (.thrown isJava ⟨here, rfl⟩)
        | false => exact .answer (.failed isJava)
      exact ends
  | callBack w' request resume ih => exact .callBack fun result w => ih result w w

private theorem follows_findClass (here : sites .lookup) (name : String) :
    Follows (bare sites) Eq (jvm.watched.findClass name) (jvm.findClass name) :=
  follows_noting here _

private theorem follows_member (here : sites .attribute) (target : Value) (name : String) :
    Follows (bare sites) (fun a b => a = Member.watched b) (jvm.watched.member target name)
      (jvm.member target name) :=
  (follows_noting here _).map_left Member.watched

private theorem follows_callMember (here : sites .call) (a : Member ω) (args : List Value) :
    Follows (bare sites) Eq (Interface.callMember a.watched args) (Interface.callMember a args) := by
  cases a with
  | field v => exact .throw rfl
  | method receiver call => exact follows_noting here _

private theorem follows_callMethod (read : sites .attribute) (called : sites .call) (target : Value) (name : String)
    (args : List Value) :
    Follows (bare sites) Eq (jvm.watched.callMethod target name args) (jvm.callMethod target name args) := by
  refine (follows_member read target name).bind fun a b same => ?_
  subst same
  exact follows_callMember called b args

end Uses

/-! ### Boxes -/

section Boxes

variable {sites : Site → Prop} {jvm : Interface ω}

private theorem ofBackend_ok (a : α) : OfBackend (.ok a) := nofun

private theorem ofBackend_error {fault : Fault} (ofBackend : isThrown fault = false) :
    OfBackend (.error fault : Except Fault α) := by
  intro fault' same
  cases same
  exact ofBackend

private theorem OfBackend.map {r : Except Fault α} (ofBackend : OfBackend r) (f : α → β) : OfBackend (r.map f) := by
  cases r with
  | ok a => exact ofBackend_ok _
  | error fault => exact ofBackend_error (ofBackend fault rfl)

private theorem ofBackend_asInteger (v : Value) : OfBackend (asInteger v) := by
  have spelled (cs : List Char) (shown : String) : OfBackend (spelledInteger cs shown) := by
    unfold spelledInteger
    split
    · exact ofBackend_ok _
    · exact ofBackend_error rfl
    · exact ofBackend_error rfl
  have whole (v : Value) : OfBackend (Text.Template.wholeNumber v) := by
    unfold Text.Template.wholeNumber
    split
    · exact ofBackend_ok _
    · exact ofBackend_ok _
    · split
      · exact ofBackend_error rfl
      · split
        · exact ofBackend_ok _
        · exact ofBackend_error rfl
    · exact ofBackend_error rfl
  unfold asInteger
  split
  · exact spelled _ _
  · exact spelled _ _
  · exact (whole _).map _
  · exact (whole _).map _
  · exact (whole _).map _
  · exact ofBackend_error rfl

private theorem ofBackend_asFloat (v : Value) : OfBackend (asFloat v) := by
  have spelled (cs : List Char) (shown : String) : OfBackend (spelledFloat cs shown) := by
    unfold spelledFloat
    split
    · exact ofBackend_ok _
    · exact ofBackend_error rfl
  have real (v : Value) : OfBackend (Text.Template.realNumber v) := by
    unfold Text.Template.realNumber
    split
    · exact ofBackend_ok _
    · exact ofBackend_ok _
    · split
      · exact ofBackend_ok _
      · exact ofBackend_error rfl
    · exact ofBackend_error rfl
  unfold asFloat
  split
  · exact spelled _ _
  · exact spelled _ _
  · exact (real _).map _
  · exact (real _).map _
  · exact (real _).map _
  · exact ofBackend_error rfl

private theorem isThrown_outOfRange (p : Primitive) (opening complaint : String) :
    isThrown (p.outOfRange opening complaint) = false := by
  unfold Primitive.outOfRange
  split <;> rfl

/-- Boxing has no handler. -/
theorem follows_box (everywhere : ∀ site, sites site) (v : Value) :
    Follows (bare sites) Eq (box jvm.watched v) (box jvm v) := by
  have made (className : String) (v : Value) : Follows (bare sites) Eq (valueOf jvm.watched className v)
      (valueOf jvm className v) := by
    refine (follows_findClass (everywhere _) className).bind fun c c' same => ?_
    subst same
    exact follows_callMethod (everywhere _) (everywhere _) c "valueOf" [v]
  unfold box
  split
  · exact .pure rfl
  · exact made _ _
  · split
    · exact made _ _
    · exact .throw (isThrown_outOfRange _ _ _)
  · exact made _ _
  · exact follows_noting (everywhere _) _
  · exact .throw rfl

private theorem follows_takeOut (everywhere : ∀ site, sites site) (ref : Value) (kind : BoxKind) :
    Follows (bare sites) Eq (takeOut jvm.watched ref kind) (takeOut jvm ref kind) := by
  have called (name : String) : Follows (bare sites) Eq (jvm.watched.callMethod ref name [])
      (jvm.callMethod ref name []) := follows_callMethod (everywhere _) (everywhere _) ref name []
  have shown : Follows (bare sites) Eq (jvm.watched.display ref) (jvm.display ref) :=
    follows_noting (everywhere _) _
  cases kind with
  | text => exact shown.bind fun s s' same => .pure (congrArg Value.text same)
  | bool => exact (called _).bind fun v v' same => .pure (congrArg (fun v => Value.bool v.truthy) same)
  | int =>
    refine (called _).bind fun v v' same => ?_
    subst same
    exact .ofExcept (ofBackend_asInteger v)
  | float =>
    refine (called _).bind fun v v' same => ?_
    subst same
    exact .ofExcept (ofBackend_asFloat v)

private theorem follows_unboxWith (everywhere : ∀ site, sites site) (ref : Value) (classes : List (String × BoxKind)) :
    Follows (bare sites) Eq (unboxWith jvm.watched ref classes) (unboxWith jvm ref classes) := by
  induction classes with
  | nil =>
    refine (follows_callMethod (everywhere _) (everywhere _) ref "getClass" []).bind fun c c' same => ?_
    subst same
    refine (follows_callMethod (everywhere _) (everywhere _) c "getName" []).bind fun name name' same => ?_
    subst same
    refine (follows_noting (everywhere .conversion) _).bind fun shown shown' same => ?_
    subst same
    exact .throw rfl
  | cons entry rest ih =>
    obtain ⟨name, kind⟩ := entry
    refine (follows_findClass (everywhere _) name).bind fun c c' same => ?_
    subst same
    split
    · exact follows_takeOut everywhere ref kind
    · exact ih

private theorem follows_unbox (everywhere : ∀ site, sites site) (ref : Value) :
    Follows (bare sites) Eq (unbox jvm.watched ref) (unbox jvm ref) := by
  unfold unbox
  split
  · exact .pure rfl
  · exact follows_unboxWith everywhere ref boxClasses

end Boxes

/-! ### Calls -/

/-- Does a handler turn an exception that is thrown there during the call into a host fault? -/
def reports : Call → Site → Bool
  | .staticClass _, _ | .field .., _ => true
  | .invoke .., site => site = .call
  | _, _ => false

/-- What becomes of an exception during a call: where a handler reports it, it comes out as a host fault with its
class, message and trace, unless it throws something else when it is asked for them; elsewhere it comes out as it
is. -/
def fate (jvm : Interface ω) (call : Call) : Fate := fun site fault fault' => ∃ className message trace,
  fault = .java className message trace ∧
    fault' = if reports call site then
      (jvm.accessorFault? fault).getD (.host className message trace (some fault)) else fault

section Calls

variable {call : Call} {jvm : Interface ω} {same : α → β → Prop} {p : Hosted (ω × Note) α} {q : Hosted ω β}

/-- Where there is no handler, exceptions come out as they are. -/
theorem Follows.unreported (body : Follows (bare (reports call · = false)) same p q) :
    Follows (fate jvm call) same p q := by
  refine body.mono fun {site fault fault'} isJava became => ?_
  obtain ⟨elsewhere, rfl⟩ := became
  cases fault' with
  | java className message trace => exact ⟨className, message, trace, rfl, by simp [elsewhere]⟩
  | _ => cases isJava

private theorem Follows.reported {condition : Fault → Bool} {report : Fault → Fault}
    (body : Follows (bare (reports call · = true)) same p q)
    (caught : ∀ fault, isThrown fault = true → condition fault = true ∧ report fault = hostFault jvm fault)
    (kept : ∀ fault, isThrown fault = false → isThrown (report fault) = false) :
    Follows (fate jvm call) same (Jvm.reporting condition report p) (Jvm.reporting condition report q) := by
  refine body.reporting kept fun {site fault fault'} isJava became => ?_
  obtain ⟨here, rfl⟩ := became
  obtain ⟨isCaught, toHost⟩ := caught fault' isJava
  rw [isCaught, if_pos rfl, toHost]
  cases fault' with
  | java className message trace => exact ⟨className, message, trace, rfl, by simp [here, hostFault]⟩
  | _ => cases isJava

private theorem isThrown_hostFault {fault : Fault} (ofBackend : isThrown fault = false) :
    isThrown (hostFault jvm fault) = false := by
  cases fault with
  | java => cases ofBackend
  | _ => rfl

/-- Looking a class up reports every exception. -/
theorem follows_staticClass (name : Value) :
    Follows (fate jvm (.staticClass name)) Eq (staticClass jvm.watched name) (staticClass jvm name) := by
  refine Follows.reported ?_ (fun fault isJava => ⟨by simp [isJava], rfl⟩) fun fault => isThrown_hostFault
  split
  · exact follows_findClass (by rfl) _
  · exact .throw rfl

private theorem follows_field (target : Value) (name : String) :
    Follows (fate jvm (.field target name)) Eq (field jvm.watched target name) (field jvm target name) := by
  refine Follows.reported ?_ (fun fault isJava => ⟨by simp [isJava], rfl⟩) fun fault => isThrown_hostFault
  refine (follows_member (by rfl) target name).bind fun a b same => ?_
  subst same
  cases b <;> exact .pure rfl

private theorem follows_boundMethod (target : Value) (method : String) (args : List Value) :
    Follows (fate jvm (.invoke target method args)) (fun a b => a = Member.watched b)
      (boundMethod jvm.watched target method) (boundMethod jvm target method) := by
  have read : Follows (bare (reports (.invoke target method args) · = false)) (fun a b => a = Member.watched b)
      (jvm.watched.member target method) (jvm.member target method) := follows_member (by rfl) target method
  refine Follows.unreported (read.tryCatch (fun fault ofBackend => ?_)
    fun {site fault fault'} isJava became => ?_)
  · split
    · refine (follows_noting (by rfl) _).bind fun named named' same => ?_
      subst same
      exact .throw rfl
    · exact .throw ofBackend
  · have present : isAbsence fault' = false := by
      rw [became.2]
      cases fault <;> first | rfl | cases isJava
    exact ⟨fault', by simp [present], by simp [present], became⟩

/-- The call itself reports every exception. -/
theorem follows_invoke (target : Value) (method : String) (args : List Value) :
    Follows (fate jvm (.invoke target method args)) Eq (invoke jvm.watched target method args)
      (invoke jvm target method args) := by
  refine (follows_boundMethod target method args).bind fun a b same => ?_
  subst same
  refine Follows.reported (follows_callMember (by rfl) b args) (fun fault isJava => ?_) fun fault ofBackend => ?_
  · refine ⟨by simp [isJava], ?_⟩
    rw [callFault, if_pos isJava]
    rfl
  · rw [callFault, ofBackend]
    rfl

end Calls

/-- A backend that promises to report every exception of the machine does not do so: what becomes of one depends
on what the machine was used for. Looking a class up and reading a field report it, and so does the call of a
method once the method has been found; it comes out as a host fault with its class, message and trace, as long as
it gives them. While the method is looked for and named, and during all of boxing and unboxing, it comes out as it
is. No other fault comes out as an exception of the machine, and to watch the machine changes nothing. -/
theorem exceptions_escape_by_site (jvm : Interface ω) (t : ThreadId) (call : Call)
    (primitive : call.isPrimitive = true) (w : ω) :
    (perform jvm.watched t call (w, none)).Mirrors (Ends (fate jvm call) Eq) (perform jvm t call w) := by
  cases call with
  | attach => cases primitive
  | detach => cases primitive
  | staticClass name => exact follows_staticClass name w
  | field target name => exact follows_field target name w
  | invoke target method args => exact follows_invoke target method args w
  | box v => exact (follows_box (fun _ => rfl) v).unreported w
  | unbox ref => exact (follows_unbox (fun _ => rfl) ref).unreported w

/-- What the machine throws over a class that it has lost. -/
def lostClass : Fault :=
  .java "java.lang.NoClassDefFoundError" (some "java/lang/Boolean") (some "trace")

/-- A machine that has lost the class of boxes for truth values. -/
def lossy : Script :=
  { Script.idle with started := true, classFaults := [("java.lang.Boolean", lostClass)] }

/-- Boxing a truth value lets the exception out, though looking the same class up reports it. -/
theorem exceptions_escape_by_site_lossy :
    (Call.box (.bool true)).isPrimitive = true ∧
      perform Script.interface .main (.box (.bool true)) lossy = .answer lossy (.error lostClass) ∧
      perform Script.interface .main (.staticClass (.text "java.lang.Boolean")) lossy =
        .answer lossy (.error (.host "java.lang.NoClassDefFoundError" (some "java/lang/Boolean") (some "trace")
          (some lostClass))) := by
  have mirrors := exceptions_escape_by_site Script.interface .main (.box (.bool true)) rfl lossy
  have noted : perform Script.interface.watched .main (.box (.bool true)) (lossy, none) =
      .answer (lossy, some (.lookup, lostClass)) (.error lostClass) := rfl
  rw [noted] at mirrors
  refine ⟨rfl, ?_, rfl⟩
  generalize perform Script.interface .main (.box (.bool true)) lossy = came at mirrors ⊢
  cases mirrors with
  | answer ends =>
    cases ends with
    | thrown isJava became => rfl

end Jvm

end HostBridge
