import HostBridge.Bridge.Hosts
import HostBridge.Proofs.Invoking
import HostBridge.Proofs.LastingWorld

/-!
# Boxing in place

A host that works on a call without asking the bridge for anything but lines in its log leaves handles as
they are. The hosts at hand box in this way, whatever the script of the machine is.
-/

namespace HostBridge

variable {ω σ α β : Type}

/-! ### Work done alone -/

namespace Reply

/-- The reply asks for nothing but lines in the log, and what it gives is good. -/
def Alone (good : α → Prop) (reply : Reply ω α) : Prop :=
  reply.Direct fun result => ∀ a, result = .ok a → good a

variable {good : α → Prop} {good' : β → Prop}

private theorem Alone.bind {reply : Reply ω α} {next : α → ω → Reply ω β} (first : reply.Alone good)
    (rest : ∀ a w, good a → (next a w).Alone good') : (reply.bind next).Alone good' := by
  induction reply with
  | answer w result =>
    cases result with
    | ok a => exact rest a w (first a rfl)
    | error e => exact fun _ absurd => nomatch absurd
  | callBack w request resume ih =>
    cases request with
    | log entry => exact fun w' => ih (.ok .nil) w' (first w')
    | perform op => exact first.elim
    | turn t op => exact first.elim

private theorem Alone.zoom {part : σ → ω} {replace : σ → ω → σ} {reply : Reply ω α} (alone : reply.Alone good)
    (whole : σ) : (reply.zoom part replace whole).Alone good := by
  induction reply generalizing whole with
  | answer w result => exact alone
  | callBack w request resume ih =>
    cases request with
    | log entry => exact fun whole' => ih (.ok .nil) _ (alone _) whole'
    | perform op => exact alone.elim
    | turn t op => exact alone.elim

end Reply

/-- The work is done alone from every world. -/
def Hosted.Alone (good : α → Prop) (p : Hosted ω α) : Prop := ∀ w, (p w).Alone good

/-- Any result will do. -/
def anything (_ : α) : Prop := True

namespace Hosted.Alone

variable {good : α → Prop} {good' : β → Prop}

private theorem pure {a : α} (ok : good a) : Alone good (Pure.pure a : Hosted ω α) := by
  rintro w _ ⟨⟩
  exact ok

private theorem throw (e : Fault) : Alone good (MonadExcept.throw e : Hosted ω α) :=
  fun _ _ absurd => nomatch absurd

private theorem get : Alone anything (MonadState.get : Hosted ω ω) := fun _ _ _ => trivial

/-- Changing the world is done alone. -/
theorem modifyGet (f : ω → α × ω) : Alone anything (MonadState.modifyGet f : Hosted ω α) :=
  fun _ _ _ => trivial

/-- A row of steps is done alone if each is, on what the one before gives. -/
theorem bind {p : Hosted ω α} {f : α → Hosted ω β} (first : Alone good p)
    (rest : ∀ a, good a → Alone good' (f a)) : Alone good' (p >>= f) :=
  fun w => (first w).bind fun a w' ok => rest a ok w'

private theorem zoom {part : σ → ω} {replace : σ → ω → σ} {p : Hosted ω α} (alone : Alone good p) :
    Alone good (p.zoom part replace) := fun whole => (alone (part whole)).zoom whole

end Hosted.Alone

/-- A host that boxes alone, whatever it boxes. -/
def HostProgram.BoxesAlone (program : HostProgram ω) : Prop :=
  ∀ view t b v, (program view t b (.box v)).Alone anything

/-- Boxing on this thread leaves its live handles live. -/
def Host.BoxesInPlace (host : Host ω) (t : ThreadId) : Prop :=
  ∀ rt v s, s.Live t rt → ((Action.box host rt v).runOn t s).2.Live t rt

/-- A host that boxes alone boxes in place, on every thread. -/
theorem HostProgram.BoxesAlone.boxesInPlace {program : HostProgram ω} (alone : program.BoxesAlone)
    (level : Nat) (t : ThreadId) : (program.host level).BoxesInPlace t := by
  intro rt v s live
  obtain ⟨b, reached⟩ := Action.runOn_cross_of_live (program.host level) live (.box v)
  rw [HostProgram.host_eq_serve] at reached
  obtain ⟨result, w, l, -, served⟩ := program.runOn_serve_of_direct level
    (State.Makes.answers program level).lines (some rt) (alone s.view t b v s.world)
  rw [HostProgram.host_eq_serve, Action.box, reached, served]
  exact live

/-! ### The hosts at hand -/

namespace Jvm

open Hosted (Alone)

/-- Calling the attribute is done alone. -/
def Member.CalledAlone : Member ω → Prop
  | .field _ => True
  | .method _ call => ∀ args, Alone anything (call args)

namespace Script

variable {s : Script}

private theorem call_alone (className name : String) (action : Behaviour) (args : List Value) :
    Alone anything (call className name action args) := by
  refine Alone.bind (Alone.modifyGet _) fun _ _ => ?_
  cases action with
  | give v => exact .pure trivial
  | echo => exact .pure trivial
  | fail fault => exact .throw fault

private theorem onClass_alone (className name : String) (m : Method) (args : List Value) :
    Alone anything (onClass className name m args) := by
  unfold onClass
  split
  · cases args with
    | nil => exact .throw _
    | cons self args => exact call_alone className name m.action args
  · exact call_alone className name m.action args

private theorem giving_calledAlone (className name : String) (v : Value) :
    (giving className name v).CalledAlone := by
  intro args
  cases args with
  | nil => exact .pure trivial
  | cons a rest => exact .throw _

private theorem scripted?_calledAlone {toObject : Bool} {className name : String}
    {run : Method → List Value → Hosted Script Value} (each : ∀ m args, Alone anything (run m args))
    {a : Member Script} (found : s.scripted? toObject className name run = some a) : a.CalledAlone := by
  rw [scripted?, Option.bind_eq_some_iff] at found
  obtain ⟨c, -, found⟩ := found
  split at found
  · cases found
    trivial
  · obtain ⟨m, -, rfl⟩ := Option.map_eq_some_iff.mp found
    exact each m

private theorem member?_calledAlone {target : Value} {name : String} {a : Member Script}
    (found : s.member? target name = some a) : a.CalledAlone := by
  unfold member? at found
  split at found
  · rcases Option.or_eq_some_iff.mp found with scripted | ⟨-, classMember⟩
    · exact scripted?_calledAlone (onClass_alone _ name) scripted
    · unfold classMember? at classMember
      split at classMember
      · cases classMember
        exact giving_calledAlone _ _ _
      · split at classMember
        · cases classMember
          intro args
          match args with
          | [v] => exact .pure trivial
          | [] | _ :: _ :: _ => exact .throw _
        · cases classMember
  · rcases Option.or_eq_some_iff.mp found with scripted | ⟨-, objectMember⟩
    · exact scripted?_calledAlone (fun m => call_alone _ name m.action) scripted
    · unfold objectMember? at objectMember
      split at objectMember
      · cases objectMember
        exact giving_calledAlone _ _ _
      · split at objectMember
        · cases objectMember
          exact giving_calledAlone _ _ _
        · cases objectMember
  · cases found

private theorem failIf_alone (fault? : Option Fault) : Alone anything (failIf fault?) := by
  cases fault? with
  | some fault => exact .throw fault
  | none => exact .pure trivial

private theorem findClass_alone (name : String) : Alone anything (findClass name) := by
  refine Alone.bind .get fun s _ => ?_
  dsimp only
  by_cases idle : (!s.started) = true
  · rw [if_pos idle]
    exact Alone.bind (.throw _) fun _ (absurd : False) => absurd.elim
  · rw [if_neg idle]
    refine Alone.bind (failIf_alone _) fun _ _ => ?_
    split
    · exact .pure trivial
    · exact .throw _

private theorem interface_member_alone (target : Value) (name : String) :
    Alone Member.CalledAlone (interface.member target name) := by
  refine Alone.bind .get fun s _ => ?_
  split
  next a found => exact .pure (member?_calledAlone found)
  next => exact .throw _

end Script

private theorem valueOf_alone (className : String) (v : Value) :
    Alone anything (valueOf Script.interface className v) := by
  refine Alone.bind (Script.findClass_alone className) fun c _ => ?_
  refine Alone.bind (Script.interface_member_alone c "valueOf") fun a alone => ?_
  cases a with
  | field f => exact .throw _
  | method receiver call => exact alone [v]

private theorem box_alone (v : Value) : Alone anything (box Script.interface v) := by
  unfold box
  split
  · exact .pure trivial
  · exact valueOf_alone _ _
  · split
    · exact valueOf_alone _ _
    · exact .throw _
  · exact valueOf_alone _ _
  · exact .pure trivial
  · exact .throw _

end Jvm

namespace Memory

open Hosted (Alone)

private theorem note_alone (b : BackendId) (call : Call) : Alone anything (note b call) := by
  refine Alone.bind (.modifyGet _) fun fault? _ => ?_
  cases fault? with
  | some fault => exact .throw fault
  | none => exact .pure trivial

private theorem box_alone (b : BackendId) (v : Value) : Alone anything (perform b (.box v)) := by
  intro w
  rcases perform_cases b (.box v) w with noted | ⟨absurd, -⟩
  · rw [noted]
    refine Alone.bind (note_alone b _) (fun _ _ => ?_) w
    unfold carryOut
    dsimp only
    split
    · exact Alone.bind (.modifyGet _) fun _ _ => .pure trivial
    · exact .pure trivial
  · cases absurd

end Memory

/-- The in-memory host and the scripted machine box alone. -/
theorem hosts_boxesAlone : hosts.BoxesAlone := by
  intro view t b v
  refine Hosted.Alone.bind (Hosted.Alone.modifyGet _) fun _ _ => ?_
  split
  · exact (Jvm.box_alone v).zoom
  · exact (Memory.box_alone b v).zoom

end HostBridge
