import HostBridge.Proofs.FailedAttaches
import HostBridge.Proofs.MachineFaults

/-!
# What a failed attach tells of the host

A fault of the bridge is to carry the class and the message of the host's fault that it answers. The faults of a
failed attach do not: neither the first one, nor those that name it later. What the host threw stands in their text
and among the faults that they answer, and nowhere else. So it is with every host, and with exceptions of a virtual
machine that its backend turns into a refusal.
-/

namespace HostBridge

variable {ω : Type}

namespace Fault

/-- The second fault is one of attaching that goes back to the first one: that is among the faults it answers, and
its text ends with the text of that. But it carries no class and no message of the host. -/
structure Conceals (thrown f : Fault) : Prop where
  attachment : f.kind? = some .attachment
  hostClass : f.hostClass = none
  hostMessage : f.hostMessage = none
  chain : InChain thrown f
  told : ∃ lead, f.text = lead ++ thrown.text

/-- An attach fails for this reason because of what a host threw: the reason is the host's fault or an exception
of a machine itself, or the refusal that the backend of a machine makes of an exception. -/
def Brings (thrown reason : Fault) : Prop :=
  (thrown.IsHost ∨ Jvm.isThrown thrown = true) ∧ (reason = thrown ∨ reason = Jvm.attachRefused thrown)

private theorem Brings.attachFault_eq {thrown reason : Fault} (brings : thrown.Brings reason) (same : reason = thrown) :
    Action.attachFault reason =
      .bridge .attachment ("Runtime attach failed: " ++ reason.text) none none (some reason) := by
  subst same
  rcases brings.1 with ⟨className, message, trace, cause, rfl⟩ | isJava
  · rfl
  · cases reason with
    | java className message trace => rfl
    | _ => cases isJava

/-- The first fault of a failed attach conceals what the host threw. -/
theorem Brings.conceals {thrown reason : Fault} (brings : thrown.Brings reason) :
    thrown.Conceals (Action.attachFault reason) := by
  rcases brings.2 with same | rfl
  · rw [brings.attachFault_eq same, same]
    exact ⟨rfl, rfl, rfl, .answered rfl .here, _, rfl⟩
  · exact ⟨rfl, rfl, rfl, .answered rfl .here, _, rfl⟩

private theorem Conceals.attachedBefore {thrown failure : Fault} (conceals : thrown.Conceals failure) :
    thrown.Conceals (Action.attachedBefore failure) := by
  obtain ⟨lead, told⟩ := conceals.told
  refine ⟨rfl, rfl, rfl, .answered rfl conceals.chain, "Runtime attach previously failed on this thread: " ++ lead, ?_⟩
  rw [String.append_assoc, ← told]
  rfl

end Fault

/-! ### Exceptions while a machine attaches -/

namespace Jvm

variable {α β : Type} {brings brings' : Fault → Fault → Prop}

/-- Wherever work on a watched machine ends after an exception was noted, it ends with a fault that the exception
has brought. -/
def Accounts (brings : Fault → Fault → Prop) : Reply (ω × Note) α → Prop
  | .answer whole result => ∀ site thrown, whole.2 = some (site, thrown) →
    ∃ reason, result = .error reason ∧ brings thrown reason
  | .callBack whole _ resume => ∀ result w, Accounts brings (resume result (w, whole.2))

private theorem accounts_of_mirrors {fate : Fate} {same : α → β → Prop} {reply : Reply (ω × Note) α}
    {reply' : Reply ω β}
    (mirrors : reply.Mirrors (Ends fate same) reply')
    (brought : ∀ {site thrown reason}, isThrown thrown = true → fate site thrown reason → brings thrown reason) :
    Accounts brings reply := by
  induction mirrors with
  | answer ends =>
    rintro site thrown noted
    cases ends with
    | thrown isJava became =>
      cases noted
      exact ⟨_, rfl, brought isJava became⟩
    | _ => cases noted
  | callBack _ ih => exact fun result w => ih result w

private theorem Accounts.bind {reply : Reply (ω × Note) α} {next : α → ω × Note → Reply (ω × Note) β}
    (first : Accounts brings reply) (rest : ∀ a w, Accounts brings (next a (w, none))) :
    Accounts brings (reply.bind next) := by
  induction reply with
  | answer whole result =>
    obtain ⟨w, note⟩ := whole
    cases result with
    | error fault =>
      intro site thrown noted
      obtain ⟨reason, failed, brought⟩ := first site thrown noted
      cases failed
      exact ⟨_, rfl, brought⟩
    | ok a =>
      cases note with
      | none => exact rest a w
      | some noted =>
        obtain ⟨reason, failed, -⟩ := first noted.1 noted.2 rfl
        cases failed
  | callBack whole request resume ih => exact fun result w => ih result _ (first result w)

private theorem Accounts.reporting {condition : Fault → Bool} {report : Fault → Fault} {p : Hosted (ω × Note) α}
    {whole : ω × Note} (body : Accounts brings (p whole))
    (became : ∀ thrown reason, brings thrown reason →
      brings' thrown (if condition reason then report reason else reason)) :
    Accounts brings' (Jvm.reporting condition report p whole) := by
  change Accounts brings' ((p whole).handle _)
  generalize p whole = reply at body
  induction reply with
  | answer whole result =>
    cases result with
    | ok a =>
      intro site thrown noted
      obtain ⟨reason, failed, -⟩ := body site thrown noted
      cases failed
    | error fault =>
      intro site thrown noted
      obtain ⟨reason, failed, brought⟩ := body site thrown noted
      cases failed
      exact ⟨_, rfl, became _ _ brought⟩
  | callBack whole request resume ih => exact fun result w => ih result _ (body result w)

/-- The exception is what the work ends with. -/
def Escapes (thrown reason : Fault) : Prop := isThrown thrown = true ∧ reason = thrown

private theorem accounts_noting (site : Site) (p : Hosted ω α) (w : ω) : Accounts Escapes
    (noting site p (w, none)) := by
  have follows : Follows (bare fun _ => True) Eq (noting site p) p := follows_noting trivial p
  exact accounts_of_mirrors (follows w) fun isJava became => ⟨isJava, became.2⟩

private theorem Accounts.mono {reply : Reply (ω × Note) α} (accounts : Accounts brings reply)
    (wider : ∀ thrown reason, brings thrown reason → brings' thrown reason) : Accounts brings' reply := by
  induction reply with
  | answer whole result =>
    intro site thrown noted
    obtain ⟨reason, failed, brought⟩ := accounts site thrown noted
    exact ⟨reason, failed, wider _ _ brought⟩
  | callBack whole request resume ih => exact fun result w => ih result _ (accounts result w)

private theorem accounts_answer (w : ω) (result : Except Fault α) : Accounts brings (.answer (w, none) result) :=
  fun _ _ noted => nomatch noted

/-- Every exception that a machine throws while it attaches a thread brings the fault that this ends with. -/
theorem accounts_attachThread (jvm : Interface ω) (t : ThreadId) (w : ω) :
    Accounts Fault.Brings (attachThread jvm.watched t (w, none)) := by
  have refused (thrown reason : Fault) (escapes : Escapes thrown reason) : thrown.Brings
      (if isThrown reason || reason.isRuntimeFault then attachRefused reason else reason) := by
    obtain ⟨isJava, rfl⟩ := escapes
    exact ⟨.inr isJava, .inr (by simp [isJava])⟩
  refine Accounts.bind ((accounts_noting .attachment jvm.isStarted w).mono fun _ _ escapes =>
    ⟨.inr escapes.1, .inl escapes.2⟩) fun started w => ?_
  cases started with
  | false => exact accounts_answer w _
  | true =>
    refine Accounts.bind (Accounts.reporting ?_ refused) fun _ w => accounts_answer w _
    refine Accounts.bind (Accounts.bind (accounts_noting .lookup _ w) fun _ w => accounts_answer w _) fun _ w => ?_
    refine Accounts.bind (accounts_noting .attachment (jvm.isAttached t) w) fun attached w => ?_
    cases attached with
    | true => exact accounts_answer w _
    | false =>
      refine Accounts.bind (accounts_noting .attachment (jvm.attach t) w) fun _ w => ?_
      -- The remark uses nothing of the machine, so it ends without a note, however it is answered.
      intro result w
      cases result with
      | ok v => exact accounts_answer w _
      | error fault => exact accounts_answer w _

end Jvm

/-! ### Every run -/

/-- Where an attach has failed because of what a host threw, all that needs the host on that thread ends with a
fault that conceals it. -/
def State.Conceals (s : State ω) : Prop :=
  ∀ t reason (thrown : Fault), s.AttachFailed t reason → thrown.Brings reason → ∀ (host : Host ω) (op : Operation),
    op.Asks s → ∃ fault s', s.Hushed s' ∧ (op.run host).runOn t s = (.error fault, s') ∧ thrown.Conceals fault

/-- A recorded failure conceals what brought it. -/
theorem State.Recorded.conceals {s : State ω} (h : s.Recorded) : s.Conceals := by
  intro t reason thrown failed brings host op asks
  obtain ⟨s', hushed, ran⟩ := (h.sticks failed).refused host op asks
  exact ⟨_, s', hushed, ran, brings.conceals.attachedBefore⟩

/-- An operation that comes to attach its thread ends as the attach does if that fails, with the fault that is
remembered from then on. -/
theorem Operation.runOn_of_failed_attach (program : HostProgram ω) (level : Nat) {t : ThreadId} {s : State ω}
    (none : s.attachments t = .none) {op : Operation} (asks : op.Asks s) :
    ∃ s₁, s.Hushed s₁ ∧ ∀ fault s',
      (Action.currentRuntime (program.host level)).runOn t s₁ = (.error fault, s') →
        (op.run (program.host level)).runOn t s = (.error fault, s') ∧
        ∃ reason, s'.AttachFailed t reason ∧ fault = Action.attachFault reason := by
  obtain ⟨s₁, rest, hushed, ran, ends⟩ := Operation.asksFirst (program.host level) t asks
  refine ⟨s₁, hushed, fun fault s' asked => ?_⟩
  have unattached : s₁.attachments t = .none := by rw [hushed.still.attachments, none]
  have tried := (program.triesOnce level unattached).ends
  rw [asked] at tried
  rcases tried with ⟨rt, got, -⟩ | ⟨reason, failed, recorded⟩
  · cases got
  · cases failed
    refine ⟨?_, reason, recorded, rfl⟩
    rw [ran, Action.runOn_bind, Action.runOn_outcome, asked]
    exact ends _ s' (Action.kind_attachFault reason)

/-- A failed attach keeps none of the host's diagnostics. Whatever the host, the operation that comes to attach its
thread ends with the fault of the attach, and everything that needs the host on that thread afterwards ends with a
fault that names it, in every state that threads reach by taking turns and wherever hosts work in between. If the
attach failed because of what a host threw, all these faults are of attaching, carry no class and no message of the
host, and tell of it in their text and by the faults that they answer only. An exception of a virtual machine that
its backend meets while it attaches is such a cause. -/
theorem failed_attach_conceals_host (program : HostProgram ω) (limit : Nat) (store : Config.Store) (world : ω) :
    (∀ level t (s : State ω), s.attachments t = .none → ∀ op : Operation, op.Asks s →
      ∃ s₁, s.Hushed s₁ ∧ ∀ fault s',
        (Action.currentRuntime (program.host level)).runOn t s₁ = (.error fault, s') →
          (op.run (program.host level)).runOn t s = (.error fault, s') ∧
          ∃ reason, s'.AttachFailed t reason ∧ ∀ thrown : Fault, thrown.Brings reason → thrown.Conceals fault) ∧
    (∀ s, (program.host limit).Reaches Operation.Any (.initial store world) s → s.Conceals) ∧
    (∀ level through? b call t (s : State ω), s.Recorded →
      (program s.view t b call s.world).Throughout (program.answers level) t State.Conceals
        (s.noting (.called ⟨t, b, call, through?, level⟩))) ∧
    ∀ (ν : Type) (jvm : Jvm.Interface ν) t w,
      Jvm.Accounts Fault.Brings (Jvm.perform jvm.watched t .attach (w, none)) := by
  refine ⟨?_, ?_, ?_, fun _ jvm t w => Jvm.accounts_attachThread jvm t w⟩
  · intro level t s none op asks
    obtain ⟨s₁, hushed, failing⟩ := Operation.runOn_of_failed_attach program level none asks
    refine ⟨s₁, hushed, fun fault s' asked => ?_⟩
    obtain ⟨ended, reason, recorded, rfl⟩ := failing fault s' asked
    exact ⟨ended, reason, recorded, fun thrown brings => brings.conceals⟩
  · intro s reached
    have recorded := ((Steady.host program limit).reaches reached).recorded (State.recorded_initial store world)
    exact recorded.conceals
  · intro level through? b call t s h
    have always := Reply.throughout_of_keeps (Steady.answers program level) (P := State.Recorded)
      (fun _ _ kept => kept.recorded) (program s.view t b call s.world) (Reply.uses_any _) (t := t)
      (s := s.noting (.called ⟨t, b, call, through?, level⟩)) (h.noting fun _ _ same => nomatch same)
    exact always.mono fun _ recorded => recorded.conceals

/-- What a host without room for another thread throws. -/
def noRoom : Fault := .host "java.lang.OutOfMemoryError" (some "unable to create native thread") none none

/-- A host that has no room for another thread. -/
def crowdedHost : HostProgram Unit := fun _ _ _ call w => match call with
  | .attach => .answer w (.error noRoom)
  | _ => .answer w (.ok .nil)

/-- The crowded host after the main thread has asked for its handle. -/
def crowdedRun : State Unit :=
  ((Operation.currentRuntime.run (crowdedHost.host nestingLimit)).runOn .main
    (State.initial (.ofSettings .nil []) ())).2

/-- What the crowded host throws is why the attach has failed. -/
theorem crowdedRun_failed_iff (reason : Fault) : crowdedRun.AttachFailed .main reason ↔ reason = noRoom := by
  constructor
  · rintro ⟨since, c, before, split, -⟩
    cases since with
    | nil =>
      cases split
      rfl
    | cons _ since =>
      cases since with
      | nil => cases split
      | cons _ since => cases since <;> cases split
  · rintro rfl
    exact ⟨[], ⟨.main, defaultBackend, .attach, none, nestingLimit⟩, _, rfl, rfl, rfl, List.forall_mem_nil _⟩

/-- What the crowded host throws is lost from the first fault on. -/
theorem failed_attach_conceals_host_crowded :
    crowdedRun.AttachFailed .main noRoom ∧ noRoom.Brings noRoom ∧
      (∃ fault s', (Operation.currentRuntime.run (crowdedHost.host nestingLimit)).runOn .main
          (State.initial (.ofSettings .nil []) ()) = (.error fault, s') ∧ noRoom.Conceals fault) ∧
      ∃ fault s', ((Operation.evaluate "1").run (crowdedHost.host nestingLimit)).runOn .main crowdedRun =
        (.error fault, s') ∧ noRoom.Conceals fault := by
  have failed := (crowdedRun_failed_iff noRoom).mpr rfl
  have brings : noRoom.Brings noRoom := ⟨.inl ⟨_, _, _, _, rfl⟩, .inl rfl⟩
  have reached : (crowdedHost.host nestingLimit).Reaches Operation.Any
      (.initial (.ofSettings .nil []) ()) crowdedRun := by
    have uses : Client.Uses Operation.Any (.perform .currentRuntime .finish) := ⟨trivial, fun _ => trivial⟩
    exact .turn (t := .main) .start uses (.performed (Prod.eta _).symm .here)
  obtain ⟨first, later, -, -⟩ := failed_attach_conceals_host crowdedHost nestingLimit (.ofSettings .nil []) ()
  refine ⟨failed, brings, ?_, ?_⟩
  · obtain ⟨s₁, hushed, ends⟩ := first nestingLimit .main (.initial (.ofSettings .nil []) ()) rfl .currentRuntime
      trivial
    have asked : ∃ s', (Action.currentRuntime (crowdedHost.host nestingLimit)).runOn .main s₁ =
        (.error (Action.attachFault noRoom), s') ∧ s'.journal = crowdedRun.journal := by
      rw [State.Hushed] at hushed
      rw [hushed]
      exact ⟨_, rfl, rfl⟩
    obtain ⟨s', asked, noted⟩ := asked
    obtain ⟨ran, reason, recorded, conceals⟩ := ends _ s' asked
    rw [State.attachFailed_congr noted, crowdedRun_failed_iff] at recorded
    exact ⟨_, s', ran, conceals noRoom (recorded ▸ brings)⟩
  · obtain ⟨fault, s', -, ran, conceals⟩ := later crowdedRun reached .main noRoom noRoom failed brings _
      (.evaluate "1") trivial
    exact ⟨fault, s', ran, conceals⟩

end HostBridge
