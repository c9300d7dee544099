import HostBridge.Proofs.FailedDetaches
import HostBridge.Proofs.Following
import HostBridge.Proofs.Marshalling

/-!
# Which threads a machine has attached

A machine keeps for each thread whether it is attached, whoever attached it: the bridge, the application, or the
start of the machine. The bridge reads this before it attaches a thread, so it never attaches one twice. But it
keeps no account of the threads that it has attached itself, and detaches every thread that lets go of its handle,
but for the main one.
-/

namespace HostBridge

variable {ω α β : Type}

namespace Jvm

/-! ### Machines with threads -/

/-- What happens to a thread. -/
inductive ThreadEvent where
  /-- The machine is called to attach it, or to detach it; the thread may have been attached before. -/
  | called (attaches : Bool) (t : ThreadId) (wasAttached : Bool)
  /-- The machine has attached it, or detached it. -/
  | done (attaches : Bool) (t : ThreadId)
deriving DecidableEq, Repr

/-- The world of a machine, and its threads. -/
structure Threads (ω : Type) where
  /-- The rest of the world. -/
  machine : ω
  /-- Is the thread attached? -/
  attached : ThreadId → Bool
  /-- What has happened to threads, latest first. -/
  events : List ThreadEvent

namespace Threads

/-- The machine is called to attach a thread, or to detach it. -/
def calling (w : Threads ω) (attaches : Bool) (t : ThreadId) : Threads ω :=
  { w with events := .called attaches t (w.attached t) :: w.events }

/-- The machine has attached the thread, or detached it. -/
def marking (w : Threads ω) (attaches : Bool) (t : ThreadId) : Threads ω :=
  { w with
    attached := fun u => if u = t then attaches else w.attached u
    events := .done attaches t :: w.events }

/-- Work of the machine that does nothing to threads. -/
def inside (p : Hosted ω α) : Hosted (Threads ω) α :=
  p.zoom Threads.machine fun whole w => { whole with machine := w }

/-- Attach a thread, or detach it. If the machine fails, the thread stays as it is. -/
def changing (p : Hosted ω Unit) (attaches : Bool) (t : ThreadId) : Hosted (Threads ω) Unit := do
  modify fun w => w.calling attaches t
  inside p
  modify fun w => w.marking attaches t

end Threads

open Threads (inside)

/-- An attribute of a machine with threads. -/
def Member.threaded : Member ω → Member (Threads ω)
  | .field v => .field v
  | .method receiver call => .method receiver fun args => inside (call args)

/-- The machine, which now tells which threads are attached as it has attached and detached them. -/
def Interface.threaded (jvm : Interface ω) : Interface (Threads ω) where
  isStarted := inside jvm.isStarted
  findClass name := inside (jvm.findClass name)
  isAttached t := do
    discard (inside (jvm.isAttached t))
    return (← get).attached t
  attach t := Threads.changing (jvm.attach t) true t
  detach t := Threads.changing (jvm.detach t) false t
  member target name := do return (← inside (jvm.member target name)).threaded
  string s := inside (jvm.string s)
  display v := inside (jvm.display v)
  literal v := inside (jvm.literal v)
  accessorFault? := jvm.accessorFault?

/-! ### Calls that do nothing to threads -/

namespace Threads

private theorem zoom_replaced (reply : Reply ω α) (whole : Threads ω) (w : ω) :
    reply.zoom machine (fun whole w => { whole with machine := w }) { whole with machine := w } =
      reply.zoom machine (fun whole w => { whole with machine := w }) whole := by
  cases reply <;> rfl

private theorem inside_bind (p : Hosted ω α) (f : α → Hosted ω β) :
    inside (p >>= f) = inside p >>= fun a => inside (f a) := by
  funext whole
  change ((p whole.machine).bind f).zoom machine (fun whole w => { whole with machine := w }) whole =
    ((p whole.machine).zoom machine (fun whole w => { whole with machine := w }) whole).bind fun a => inside (f a)
  generalize p whole.machine = reply
  induction reply generalizing whole with
  | answer w result =>
    cases result with
    | ok a => exact (zoom_replaced (f a w) whole w).symm
    | error fault => rfl
  | callBack w request resume ih =>
    simp only [Reply.bind, Reply.zoom]
    congr 1
    funext result whole
    exact ih result whole.machine whole

private theorem inside_tryCatch (p : Hosted ω α) (onFault : Fault → Hosted ω α) :
    inside (tryCatch p onFault) = tryCatch (inside p) fun fault => inside (onFault fault) := by
  funext whole
  change ((p whole.machine).handle onFault).zoom machine (fun whole w => { whole with machine := w }) whole =
    ((p whole.machine).zoom machine (fun whole w => { whole with machine := w }) whole).handle
      fun fault => inside (onFault fault)
  generalize p whole.machine = reply
  induction reply generalizing whole with
  | answer w result =>
    cases result with
    | ok a => rfl
    | error fault => exact (zoom_replaced (onFault fault w) whole w).symm
  | callBack w request resume ih =>
    simp only [Reply.handle, Reply.zoom]
    congr 1
    funext result whole
    exact ih result whole.machine whole

end Threads

open Threads (inside_bind inside_tryCatch)

variable {jvm : Interface ω}

private theorem threaded_member_bind (target : Value) (name : String) (f : Member (Threads ω) → Hosted (Threads ω) α) :
    jvm.threaded.member target name >>= f = inside (jvm.member target name) >>= fun a => f a.threaded :=
  Hosted.bind_assoc _ _ _

private theorem callMember_threaded (a : Member ω) (args : List Value) :
    Interface.callMember a.threaded args = inside (Interface.callMember a args) := by
  cases a <;> rfl

private theorem callMethod_threaded (target : Value) (name : String) (args : List Value) :
    jvm.threaded.callMethod target name args = inside (jvm.callMethod target name args) := by
  rw [Interface.callMethod, threaded_member_bind, Interface.callMethod, inside_bind]
  exact bind_congr fun a => callMember_threaded a args

private theorem reporting_inside (condition : Fault → Bool) (report : Fault → Fault) (p : Hosted ω α) :
    reporting condition report (inside p) = inside (reporting condition report p) := by
  rw [reporting, reporting, inside_tryCatch]
  rfl

private theorem tryCatch_threaded (p : Hosted ω (Member ω)) (onFault : Fault → Hosted ω (Member ω)) :
    (tryCatch (inside p >>= fun a => pure a.threaded) fun fault =>
        inside (onFault fault) >>= fun a => pure a.threaded) =
      (inside (tryCatch p onFault) >>= fun a => pure a.threaded : Hosted (Threads ω) (Member (Threads ω))) := by
  rw [inside_tryCatch]
  funext whole
  change ((inside p whole).bind fun a w => .answer w (.ok a.threaded)).handle
      (fun fault w => (inside (onFault fault) w).bind fun a w => .answer w (.ok a.threaded)) =
    ((inside p whole).handle fun fault => inside (onFault fault)).bind fun a w => .answer w (.ok a.threaded)
  generalize inside p whole = reply
  induction reply with
  | answer w result => cases result <;> rfl
  | callBack w request resume ih =>
    simp only [Reply.bind, Reply.handle]
    congr 1
    funext result w
    exact ih result w

private theorem boundMethod_threaded (target : Value) (method : String) :
    boundMethod jvm.threaded target method =
      (inside (boundMethod jvm target method) >>= fun a => pure a.threaded) := by
  rw [boundMethod, boundMethod, ← tryCatch_threaded]
  congr 1
  funext fault
  split
  · rw [inside_bind, Hosted.bind_assoc]
    rfl
  · rfl

private theorem takeOut_threaded (ref : Value) (kind : BoxKind) :
    takeOut jvm.threaded ref kind = inside (takeOut jvm ref kind) := by
  cases kind with
  | text =>
    rw [takeOut, takeOut, inside_bind]
    rfl
  | bool =>
    rw [takeOut, takeOut, callMethod_threaded, inside_bind]
    rfl
  | int =>
    rw [takeOut, takeOut, callMethod_threaded, inside_bind]
    refine bind_congr fun v => ?_
    cases asInteger v <;> rfl
  | float =>
    rw [takeOut, takeOut, callMethod_threaded, inside_bind]
    refine bind_congr fun v => ?_
    cases asFloat v <;> rfl

private theorem unboxWith_threaded (ref : Value) (classes : List (String × BoxKind)) :
    unboxWith jvm.threaded ref classes = inside (unboxWith jvm ref classes) := by
  induction classes with
  | nil =>
    rw [unboxWith, unboxWith, callMethod_threaded, inside_bind]
    refine bind_congr fun c => ?_
    rw [callMethod_threaded, inside_bind]
    refine bind_congr fun name => ?_
    rw [inside_bind]
    rfl
  | cons entry rest ih =>
    rw [unboxWith, unboxWith, inside_bind]
    refine bind_congr fun c => ?_
    split
    · exact takeOut_threaded ref _
    · exact ih

private theorem box_threaded (v : Value) : box jvm.threaded v = inside (box jvm v) := by
  have made (className : String) (v : Value) :
      valueOf jvm.threaded className v = inside (valueOf jvm className v) := by
    rw [valueOf, valueOf, inside_bind]
    exact bind_congr fun c => callMethod_threaded c _ _
  unfold box
  split
  · rfl
  · exact made _ _
  · split
    · exact made _ _
    · rfl
  · exact made _ _
  · rfl
  · rfl

/-- Calls that need a handle and leave it attached are carried out as on the machine without threads, and do nothing
to threads. -/
theorem perform_threaded (t : ThreadId) {call : Call} (primitive : call.isPrimitive = true) :
    perform jvm.threaded t call = inside (perform jvm t call) := by
  cases call with
  | attach => cases primitive
  | detach => cases primitive
  | staticClass name =>
    rw [perform, perform]
    unfold staticClass
    rw [← reporting_inside]
    split <;> rfl
  | field target name =>
    rw [perform, perform, field, field, threaded_member_bind, ← reporting_inside, inside_bind]
    congr 1
    refine bind_congr fun a => ?_
    cases a <;> rfl
  | invoke target method args =>
    rw [perform, perform, invoke, invoke, boundMethod_threaded, Hosted.bind_assoc, inside_bind]
    refine bind_congr fun a => ?_
    rw [← reporting_inside, ← callMember_threaded]
    rfl
  | box v => exact box_threaded v
  | unbox ref =>
    cases ref with
    | prim p => rfl
    | _ => exact unboxWith_threaded _ _

/-! ### What calls do to threads -/

/-- What the event leaves the thread as, if it does something to it. -/
def ThreadEvent.leaves? (t : ThreadId) : ThreadEvent → Option Bool
  | .done attaches u => if u = t then some attaches else none
  | .called .. => none

/-- Only threads that are not attached are attached, and only others than the main one are detached. -/
def ThreadEvent.Permitted : ThreadEvent → Prop
  | .called true _ wasAttached => wasAttached = false
  | .done true _ => True
  | .called false t _ | .done false t => t ≠ .main

namespace Threads

/-- From the first world to the second one nothing happens to threads that is not permitted, and every thread is as
it was left last. -/
def Leads (w w' : Threads ω) : Prop :=
  ∃ later, w'.events = later ++ w.events ∧ (∀ e ∈ later, e.Permitted) ∧
    ∀ t, w'.attached t = (later.findSome? (ThreadEvent.leaves? t)).getD (w.attached t)

instance : Lasting (Leads (ω := ω)) where
  refl w := ⟨[], rfl, nofun, fun _ => rfl⟩
  trans := by
    rintro w w' w'' ⟨first, grown, permitted, flags⟩ ⟨second, grown', permitted', flags'⟩
    refine ⟨second ++ first, ?_, ?_, fun t => ?_⟩
    · rw [grown', grown, List.append_assoc]
    · exact List.forall_mem_append.mpr ⟨permitted', permitted⟩
    · rw [flags', flags, List.findSome?_append, Option.getD_or]

variable {w w' : Threads ω} {attaches : Bool} {t : ThreadId}

private theorem leads_calling (permitted : (ThreadEvent.called attaches t (w.attached t)).Permitted) :
    w.Leads (w.calling attaches t) :=
  ⟨[_], rfl, List.forall_mem_singleton.mpr permitted, fun _ => rfl⟩

private theorem leads_marking (permitted : (ThreadEvent.done attaches t).Permitted) : w.Leads
    (w.marking attaches t) := by
  refine ⟨[_], rfl, List.forall_mem_singleton.mpr permitted, fun u => ?_⟩
  by_cases same : t = u
  · simp [marking, ThreadEvent.leaves?, same]
  · simp [marking, ThreadEvent.leaves?, same, Ne.symm same]

/-- The main thread stays attached. -/
theorem Leads.main_stays (leads : w.Leads w') (attached : w.attached .main = true) : w'.attached .main = true := by
  obtain ⟨later, -, permitted, flags⟩ := leads
  rw [flags]
  cases found : later.findSome? (ThreadEvent.leaves? .main) with
  | none => exact attached
  | some b =>
    obtain ⟨e, there, left⟩ := List.exists_of_findSome?_eq_some found
    have allowed := permitted e there
    cases e with
    | called attaches u wasAttached => cases left
    | done attaches u =>
      by_cases main : u = .main
      · subst main
        cases attaches with
        | true => simpa [ThreadEvent.leaves?] using left.symm
        | false => exact (allowed rfl).elim
      · simp [ThreadEvent.leaves?, main] at left

private theorem follows_inside (p : Hosted ω α) : Hosted.Follows Leads (inside p) :=
  .zoom (W := fun _ _ => True) (fun _ _ _ => ⟨[], rfl, nofun, fun _ => rfl⟩) (.of_all (fun _ _ => trivial) p)

private theorem changing_bind (p : Hosted ω Unit) (attaches : Bool) (t : ThreadId) (f : Unit → Hosted (Threads ω) α) :
    changing p attaches t >>= f = (do
      modify fun w => w.calling attaches t
      inside p
      modify fun w => w.marking attaches t
      f ()) := by
  rw [changing, Hosted.bind_assoc]
  exact bind_congr fun _ => Hosted.bind_assoc _ _ _

private theorem follows_changing (p : Hosted ω Unit)
    (called : (ThreadEvent.called attaches t (w.attached t)).Permitted)
    (done : (ThreadEvent.done attaches t).Permitted) : (changing p attaches t w).Follows Leads w := by
  have rest : Hosted.Follows Leads (inside p >>= fun _ => modify fun w => w.marking attaches t) :=
    (follows_inside p).bind fun _ => .modify fun _ => leads_marking done
  exact (rest (w.calling attaches t)).after (leads_calling called)

end Threads

open Threads (Leads follows_inside follows_changing)

private theorem follows_isAttached_bind {t : ThreadId} {f : Bool → Hosted (Threads ω) α}
    (rest : ∀ w, (f (w.attached t) w).Follows Leads w) :
    Hosted.Follows Leads (jvm.threaded.isAttached t >>= f) := by
  have asked : jvm.threaded.isAttached t >>= f =
      inside (jvm.isAttached t) >>= fun _ => get >>= fun w => f (w.attached t) := by
    simp only [Interface.threaded, Functor.discard]
    change (inside (jvm.isAttached t) >>= _) >>= _ >>= f = _
    rw [Hosted.bind_assoc, Hosted.bind_assoc]
    rfl
  rw [asked]
  exact (follows_inside _).bind fun _ => rest

private theorem follows_remark (message : String) : Hosted.Follows (Leads (ω := ω)) (remark message) :=
  (Hosted.Follows.request _).bind fun _ => .pure _

private theorem follows_attachThread (t : ThreadId) : Hosted.Follows Leads (attachThread jvm.threaded t) := by
  have attach : Hosted.Follows Leads (do
      discard (jvm.threaded.findClass threadClass)
      if !(← jvm.threaded.isAttached t) then
        jvm.threaded.attach t
        remark "JPype attached OS thread to the JVM") := by
    refine .bind (.bind (follows_inside _) fun _ => .pure _) fun _ => follows_isAttached_bind fun w => ?_
    cases attached : w.attached t with
    | true => exact Lasting.refl w
    | false =>
      have permitted : (ThreadEvent.called true t (w.attached t)).Permitted := attached
      exact (follows_changing (jvm.attach t) permitted trivial).bind fun _ => follows_remark _
  refine .bind (follows_inside _) fun started => ?_
  cases started with
  | false => exact .throw notRunning
  | true => exact .bind (.tryCatch attach fun _ => .throw _) fun _ => .pure _

private theorem follows_detachThread (t : ThreadId) : Hosted.Follows Leads (detachThread jvm.threaded t) := by
  refine .bind (follows_inside _) fun started => ?_
  cases started with
  | false => exact .pure _
  | true =>
    by_cases main : t = .main
    · rw [if_neg nofun, if_pos main]
      exact .pure _
    · rw [if_neg nofun, if_neg main]
      refine .bind (.bind (follows_inside _) fun _ => .pure _) fun _ => ?_
      exact .bind (fun w => follows_changing (jvm.detach t) main main) fun _ =>
        .bind (follows_remark _) fun _ => .pure _

private theorem follows_program (jvm : Interface ω) : jvm.threaded.program.Follows Leads := by
  intro view t b call
  change Hosted.Follows Leads (perform jvm.threaded t call)
  cases call with
  | attach => exact follows_attachThread t
  | detach => exact follows_detachThread t
  | _ =>
    rw [perform_threaded t rfl]
    exact follows_inside _

end Jvm

open Jvm (Threads)

/-- What has happened to threads between the states was permitted, and every thread is as it was left last. -/
def State.LeadsThreads (s s' : State (Threads ω)) : Prop := s.world.Leads s'.world

instance {allowed : Operation → Prop} : Releases allowed (State.LeadsThreads (ω := ω)) where
  releasing s _ _ := Lasting.refl s.world

instance : Upkeep Threads.Leads (State.LeadsThreads (ω := ω)) where
  same {s s'} _ world := by
    rw [State.LeadsThreads, world]
    exact Lasting.refl s.world
  owning s _ := Lasting.refl s.world
  working _ _ leads := leads
  trans first second := Lasting.trans (W := Threads.Leads) first second

/-- Any number of turns of any threads leads on. -/
theorem Jvm.Interface.leadsThreads (jvm : Jvm.Interface ω) {limit : Nat} {start s : State (Threads ω)}
    (reached : (jvm.threaded.program.host limit).Reaches Operation.Any start s) : start.world.Leads s.world := by
  have uses : jvm.threaded.program.Uses Operation.Any := fun _ _ _ _ _ => Reply.uses_any _
  exact (Upkeep.host_keepsTo (R := State.LeadsThreads) (Jvm.follows_program jvm) uses limit).reaches reached

/-! ### What is left when a thread has let go -/

/-- Where the work ends with a value, it leaves such a world. Lines in the log change nothing. -/
inductive Reply.Leaves (P : ω → Prop) : Reply ω α → Prop
  | value {w : ω} {a : α} : P w → Leaves P (.answer w (.ok a))
  | failed {w : ω} {fault : Fault} : Leaves P (.answer w (.error fault))
  | logged {w : ω} {entry : LogEntry} {resume : Except Fault Value → ω → Reply ω α} :
    Leaves P (resume (.ok .nil) w) → Leaves P (.callBack w (.log entry) resume)
  | asked {w : ω} {request : Request} {resume : Except Fault Value → ω → Reply ω α} :
    (∀ result w, Leaves P (resume result w)) → Leaves P (.callBack w request resume)

namespace Reply.Leaves

variable {P : ω → Prop}

private theorem bind {next : α → ω → Reply ω β} (rest : ∀ a w, (next a w).Leaves P) (reply : Reply ω α) :
    (reply.bind next).Leaves P := by
  induction reply with
  | answer w result =>
    cases result with
    | ok a => exact rest a w
    | error fault => exact .failed
  | callBack w request resume ih => exact .asked ih

private theorem runOn {answer : Request → Action ω Value} (lines : TakesLines answer) {reply : Reply ω Value}
    (leaves : reply.Leaves P) {t : ThreadId} {s s' : State ω} {v : Value}
    (ran : (reply.run answer).runOn t s = (.ok v, s')) : P s'.world := by
  induction leaves generalizing s with
  | value holds =>
    simp only [Reply.run, Action.runOn_bind, Action.runOn_modify, Action.runOn_ofExcept] at ran
    cases ran
    exact holds
  | failed =>
    simp only [Reply.run, Action.runOn_bind, Action.runOn_modify, Action.runOn_ofExcept] at ran
    cases ran
  | logged _ ih =>
    simp only [Reply.run, lines _, Request.refuse, Action.runOn_bind, Action.runOn_modify, Action.runOn_outcome,
      Action.runOn_log, Action.runOn_pure, Action.runOn_get] at ran
    exact ih ran
  | asked _ ih =>
    simp only [Reply.run, Action.runOn_bind, Action.runOn_modify, Action.runOn_outcome, Action.runOn_get] at ran
    exact ih _ _ ran

end Reply.Leaves

/-- In this world the machine is running, and says so at once. -/
def Jvm.Interface.Runs (jvm : Jvm.Interface ω) (w : ω) : Prop := ∃ w', jvm.isStarted w = .answer w' (.ok true)

section Detaching

variable {jvm : Jvm.Interface ω} {t : ThreadId}

private theorem Jvm.leaves_detachThread (other : t ≠ .main) {w : Threads ω} (runs : jvm.Runs w.machine) :
    (Jvm.detachThread jvm.threaded t w).Leaves fun w => w.attached t = false := by
  obtain ⟨m, started⟩ := runs
  have asked : jvm.threaded.isStarted w = .answer { w with machine := m } (.ok true) := by
    change (jvm.isStarted w.machine).zoom Threads.machine _ w = _
    rw [started]
    rfl
  -- The steps are grouped so that the mark and the remark are the last one.
  have steps : Jvm.detachThread jvm.threaded t w =
      (do
        discard (jvm.threaded.findClass Jvm.threadClass)
        modify fun w => w.calling false t
        Threads.inside (jvm.detach t)
        modify fun w => w.marking false t
        Jvm.remark "JPype detached OS thread from the JVM"
        return .nil : Hosted (Threads ω) Value) { w with machine := m } := by
    change (jvm.threaded.isStarted w).bind _ = _
    rw [asked]
    refine (congrFun (if_neg other) { w with machine := m }).trans ?_
    exact congrFun (bind_congr fun _ => Threads.changing_bind (jvm.detach t) false t _) { w with machine := m }
  rw [steps]
  refine .bind (fun _ _ => .bind (fun _ _ => .bind (fun _ w => ?_) _) _) _
  have gone : (w.marking false t).attached t = false := if_pos rfl
  exact .logged (.value gone)

/-- A thread that lets go of its handle in order is detached, unless it is the main one. -/
theorem State.detached_of_runOn_detachRuntime (other : t ≠ .main) {level : Nat} {s s' : State (Threads ω)}
    (runs : jvm.Runs s.world.machine)
    (came : (Action.detachRuntime (jvm.threaded.program.host level)).runOn t s = (.ok true, s')) :
    s'.world.attached t = false := by
  rw [HostProgram.host_eq_serve] at came
  cases cached : (s.attachments t).handle? with
  | none =>
    rw [Action.runOn_detachRuntime_of_none _ cached] at came
    cases came
  | some id =>
    rw [Action.runOn_detachRuntime_of_handle _ cached] at came
    generalize let_go : (s.setAttachment t _).noting (.forgotten t) = s₁ at came
    have world : s.world = s₁.world := by rw [← let_go]; rfl
    have same := Action.state_of_runOn_checked id t s₁
    cases passed : (Action.checked id).runOn t s₁ with
    | mk result s₂ =>
    rw [passed] at same
    subst same
    cases result with
    | error fault =>
      rw [Action.runOn_detachHandle_error _ passed] at came
      cases came
    | ok b =>
      rw [world] at runs
      have leaves := Jvm.leaves_detachThread other runs
      cases ran : ((jvm.threaded.program s₂.view t b .detach s₂.world).run
          (jvm.threaded.program.answers level)).runOn t (s₂.noting (.called ⟨t, b, .detach, some id, level⟩)) with
      | mk result e =>
      have served := HostProgram.runOn_serve jvm.threaded.program level ran
      cases result with
      | error fault =>
        rw [Action.runOn_detachHandle_of_failed passed served] at came
        cases came
      | ok v =>
        obtain ⟨l, ended⟩ := Action.runOn_detachHandle_ok passed served
        rw [ended] at came
        cases came
        have gone : e.world.attached t = false :=
          leaves.runOn (takesLines_answers jvm.threaded.program level) ran
        exact gone

end Detaching

/-- The bridge keeps no account of which threads it has attached. In any number of turns of any threads, whatever
was attached before, it attaches only threads that are not attached, and detaches only others than the main one;
so the main thread stays attached, and every thread is as these calls leave it. But while the machine runs, any
other thread that lets go of its handle in order is not attached afterwards, whoever attached it. -/
theorem detaching_disregards_attacher (jvm : Jvm.Interface ω) :
    (∀ limit (s s' : State (Threads ω)), (jvm.threaded.program.host limit).Reaches Operation.Any s s' →
      s.world.Leads s'.world ∧ (s.world.attached .main = true → s'.world.attached .main = true)) ∧
    ∀ level t (s s' : State (Threads ω)), t ≠ .main → jvm.Runs s.world.machine →
      (Action.detachRuntime (jvm.threaded.program.host level)).runOn t s = (.ok true, s') →
      s'.world.attached t = false :=
  ⟨fun _ _ _ reached => ⟨jvm.leadsThreads reached, (jvm.leadsThreads reached).main_stays⟩,
    fun _ _ _ _ other runs came => State.detached_of_runOn_detachRuntime other runs came⟩

/-- A thread that is not the main one. -/
def workerThread : ThreadId := ⟨"worker"⟩

/-- A plain machine that was started from the worker thread. -/
def startedByWorker : Threads Jvm.Script :=
  { machine := { Jvm.Script.idle with started := true }, attached := fun t => t = workerThread, events := [] }

/-- The worker thread has asked for its handle. -/
def workerRun : State (Threads Jvm.Script) :=
  ((Operation.currentRuntime.run (Jvm.Script.interface.threaded.program.host nestingLimit)).runOn workerThread
    (.initial (.ofSettings .nil []) startedByWorker)).2

/-- The bridge has not attached the worker thread, and detaches it. -/
theorem detaching_disregards_attacher_worker :
    (∃ later, workerRun.world.events = later ++ startedByWorker.events ∧ ∀ e ∈ later, e.Permitted) ∧
      workerRun.world.attached workerThread = true ∧ workerRun.world.events = [] ∧
      ∃ s', (Action.detachRuntime (Jvm.Script.interface.threaded.program.host nestingLimit)).runOn workerThread
        workerRun = (.ok true, s') ∧ s'.world.attached workerThread = false := by
  have other : workerThread ≠ .main := by decide
  have reached : (Jvm.Script.interface.threaded.program.host nestingLimit).Reaches Operation.Any
      (.initial (.ofSettings .nil []) startedByWorker) workerRun := by
    have uses : Client.Uses Operation.Any (.perform .currentRuntime .finish) := ⟨trivial, fun _ => trivial⟩
    exact .turn (t := workerThread) .start uses (.performed (Prod.eta _).symm .here)
  obtain ⟨runs, detaches⟩ := detaching_disregards_attacher Jvm.Script.interface
  obtain ⟨later, grown, permitted, -⟩ := (runs nestingLimit _ _ reached).1
  have started : workerRun.world.machine.started = true := by decide +kernel
  have running : Jvm.Script.interface.Runs workerRun.world.machine :=
    ⟨_, congrArg (fun b => Reply.answer workerRun.world.machine (.ok b)) started⟩
  have ended : ((Action.detachRuntime (Jvm.Script.interface.threaded.program.host nestingLimit)).runOn workerThread
      workerRun).1.toOption = some true := by decide +kernel
  refine ⟨⟨later, grown, permitted⟩, by decide +kernel, by decide +kernel, ?_⟩
  cases came : (Action.detachRuntime (Jvm.Script.interface.threaded.program.host nestingLimit)).runOn workerThread
    workerRun with
  | mk result s' =>
  rw [came] at ended
  cases result with
  | error fault => cases ended
  | ok b =>
    cases ended
    exact ⟨s', rfl, detaches nestingLimit workerThread workerRun s' other running came⟩

end HostBridge
