import HostBridge.Proofs.CoupledStrands
import HostBridge.Proofs.Scripts
import Mathlib.Data.List.Forall2

/-!
# Threads that take turns do not interfere

Threads take turns, each with a script of its own, in any order, and also in the middle of an operation. Every
piece of a thread changes only what is its own, and depends on nothing else. So a thread sees the same, and is
attached and detached by the same calls, as when it takes its turns alone.
-/

namespace HostBridge

variable {ω σ τ : Type} {part : ThreadId → ω → σ} {shows : Except Fault Value → τ} {b : BackendId}
  {t : ThreadId} {ρ : Pairing} {start s s' : State ω}

/-! ### Scripts -/

private theorem rel_getElem?_of_forall₂ {handles handles' : List HandleId}
    (paired : List.Forall₂ ρ handles handles') (k : Nat) : Option.Rel ρ handles[k]? handles'[k]? := by
  induction paired generalizing k with
  | nil => exact .none
  | cons pair _ ih =>
    cases k with
    | zero => exact .some pair
    | succ k => exact ih k

private theorem Corresponds.toList {r r' : Except Fault HandleId} (same : Corresponds ρ r r') :
    List.Forall₂ ρ r.toOption.toList r'.toOption.toList := by
  cases same with
  | ok pair => exact .cons pair .nil
  | error fault => exact .nil

private theorem Corresponds.sight {α : Type} {R : α → α → Prop} {r r' : Except Fault α} (same : Corresponds R r r')
    (x : Sight τ) : Sight.of (fun _ => x) r = Sight.of (fun _ => x) r' := by
  cases same <;> rfl

/-- Two threads do the same from here on. -/
abbrev Strand.GoOnAlike (part : ThreadId → ω → σ) (b : BackendId) (t : ThreadId) :
    Pairing → Strand ω (Sight τ) Unit → Strand ω (Sight τ) Unit → Prop :=
  Strand.InStep part b t fun _ _ _ => True

section Scripts

variable {program : HostProgram ω} (separate : program.Separate part shows b) (level : Nat)

include separate

private theorem Use.calls_inStep (use : Use shows) (rt rt' : HandleId) :
    Strand.InStep part b t (fun _ r r' => shows r = shows r') ρ (use.calls (program.host level) rt b)
      (use.calls (program.host level) rt' b) := by
  have answers := coupledAnswers separate level
  have primitive {ρ : Pairing} (call : Call) (primitive : call.isPrimitive = true) :
      Strand.InStep part b t (fun _ r r' => shows r = shows r') ρ
        (.atom (program.host level (some rt) b call) : Strand ω (Sight τ) Value)
        (.atom (program.host level (some rt') b call)) :=
    Strand.primitiveCall_inStep separate answers (some rt) (some rt') call primitive
  cases use with
  | staticClass name => exact primitive (.staticClass name) rfl
  | readField target name => exact primitive (.field target name) rfl
  | invokeMethod target method args => exact primitive (.invoke target method args) rfl
  | box v => exact primitive (.box v) rfl
  | unbox ref => exact primitive (.unbox ref) rfl
  | invokeStatic exact className method args =>
    -- The class that was found is the target of the next call, so it has to be the same.
    refine (primitive (.staticClass className) rfl).followed fun ρ₁ _ r r' same => ?_
    obtain rfl := exact same
    cases r with
    | ok target => exact primitive (.invoke target method args) rfl
    | error fault => rfl

private theorem Ask.strand_inStep (ask : Ask shows) {handles handles' : List HandleId}
    (paired : List.Forall₂ ρ handles handles') {next : Sight τ → List HandleId → Strand ω (Sight τ) Unit}
    (onward : ∀ ⦃ρ₁ : Pairing⦄ (sight : Sight τ) {handles handles' : List HandleId},
      List.Forall₂ ρ₁ handles handles' →
        Strand.GoOnAlike part b t ρ₁ (next sight handles) (next sight handles')) :
    Strand.GoOnAlike part b t ρ (ask.strand (program.host level) handles next)
      (ask.strand (program.host level) handles' next) := by
  have answers := coupledAnswers separate level
  have told {ρ₁ : Pairing} {sight sight' : Sight τ} {handles handles' : List HandleId}
      (same : sight = sight') (paired : List.Forall₂ ρ₁ handles handles') :
      Strand.GoOnAlike part b t ρ₁ (Ask.strand.told next sight handles)
        (Ask.strand.told next sight' handles') := by
    subst same
    exact ⟨rfl, onward sight paired⟩
  have kept {ρ₁ : Pairing} (more : Subrelation ρ ρ₁) : List.Forall₂ ρ₁ handles handles' :=
    paired.imp fun _ _ pair => more pair
  cases ask with
  | currentRuntime =>
    refine (Strand.currentRuntime_inStep separate answers).followed fun ρ₁ more r r' same => ?_
    exact told (same.sight .handle) (List.rel_append (kept more) same.toList)
  | detachRuntime =>
    refine (Strand.detachRuntime_inStep separate answers).followed fun ρ₁ more r r' same => ?_
    exact told (congrArg (Sight.of .truth) same) (kept more)
  | hasRuntime =>
    refine Strand.hasRuntime_inStep.followed fun ρ₁ more r r' same => ?_
    exact told (congrArg (Sight.of .truth) same) (kept more)
  | through k use =>
    have place := rel_getElem?_of_forall₂ paired k
    simp only [Ask.strand]
    generalize handles[k]? = rt?, handles'[k]? = rt?' at place
    cases place with
    | none => exact told rfl paired
    | @some rt rt' pair =>
      refine (Strand.InStep.atom fun _ _ _ _ more h => h.checked_meets (more pair)).followed ?_
      rintro ρ₁ more _ _ (⟨⟨rfl, rfl⟩⟩ | fault)
      · refine (use.calls_inStep separate level rt rt').followed fun ρ₂ more' r r' same => ?_
        exact told (congrArg Sight.answered same) (kept fun pair => more' (more pair))
      · exact told rfl (kept more)
  | detachHandle k =>
    have place := rel_getElem?_of_forall₂ paired k
    simp only [Ask.strand]
    generalize handles[k]? = rt?, handles'[k]? = rt?' at place
    cases place with
    | none => exact told rfl paired
    | some pair =>
      refine (Strand.detachHandle_inStep separate answers pair).followed fun ρ₁ more r r' same => ?_
      exact told (same.sight .done) (kept more)

/-- A script goes on alike with handles that are paired. -/
theorem Script.strand_inStep (script : Script shows) {handles handles' : List HandleId}
    (paired : List.Forall₂ ρ handles handles') :
    Strand.GoOnAlike part b t ρ (script.strand (program.host level) handles)
      (script.strand (program.host level) handles') := by
  induction script generalizing ρ handles handles' with
  | finish => trivial
  | step ask next ih => exact ask.strand_inStep separate level paired fun ρ₁ sight _ _ paired => ih sight paired

end Scripts

/-! ### Turns -/

/-- Two threads under way go on alike and have seen the same. -/
structure Running.Alike (part : ThreadId → ω → σ) (b : BackendId) (t : ThreadId) (ρ : Pairing)
    (running running' : Running ω τ) : Prop where
  rest : Strand.GoOnAlike part b t ρ running.rest running'.rest
  seen : running.seen = running'.seen

private theorem advance_coupled {running running' : Running ω τ} (alike : running.Alike part b t ρ running')
    (h : Coupled part b t ρ start s s') :
    ∃ ρ₁ : Pairing, Coupled part b t ρ₁ start (running.advance t s).2 (running'.advance t s').2 ∧
      (running.advance t s).1.Alike part b t ρ₁ (running'.advance t s').1 := by
  obtain ⟨rest, seen⟩ := running
  obtain ⟨rest', seen'⟩ := running'
  obtain ⟨inStep, rfl⟩ := alike
  cases rest with
  | finish result =>
    cases rest' with
    | finish result' => exact ⟨ρ, h, inStep, rfl⟩
    | piece _ _ => exact inStep.elim
    | see _ _ => exact inStep.elim
  | piece first later =>
    cases rest' with
    | finish _ => exact inStep.elim
    | piece first' later' =>
      obtain ⟨ρ₁, -, coupled, onward⟩ := inStep (fun pair => pair) h
      exact ⟨ρ₁, coupled, onward, rfl⟩
    | see _ _ => exact inStep.elim
  | see sight later =>
    cases rest' with
    | finish _ => exact inStep.elim
    | piece _ _ => exact inStep.elim
    | see sight' later' =>
      obtain ⟨rfl, onward⟩ := inStep
      exact ⟨ρ, h, onward, rfl⟩

/-- A thread among others is where it is when it runs alone. -/
def RunsAlike (part : ThreadId → ω → σ) (b : BackendId) (t : ThreadId)
    (now alone : (ThreadId → Running ω τ) × State ω) : Prop :=
  ∃ ρ : Pairing, Coupled part b t ρ now.2 now.2 alone.2 ∧ (now.1 t).Alike part b t ρ (alone.1 t)

section Turns

variable {now alone : (ThreadId → Running ω τ) × State ω}

private theorem RunsAlike.own_turn (same : RunsAlike part b t now alone) :
    RunsAlike part b t (turn t now) (turn t alone) := by
  obtain ⟨ρ, coupled, alike⟩ := same
  obtain ⟨ρ₁, coupled', alike'⟩ := advance_coupled alike coupled
  refine ⟨ρ₁, coupled'.restart, ?_⟩
  simpa [turn] using alike'

private theorem RunsAlike.other_turn {u : ThreadId} {other : (ThreadId → Running ω τ) × State ω} (hu : t ≠ u)
    (taken : RunsAlike part b u now other) (same : RunsAlike part b t now alone) :
    RunsAlike part b t (turn u now) alone := by
  obtain ⟨ρ, coupled, alike⟩ := same
  obtain ⟨ρ', coupled', alike'⟩ := taken
  obtain ⟨ρ₁, ended, -⟩ := advance_coupled alike' coupled'
  refine ⟨ρ, coupled.of_untouched (ended.others t hu), ?_⟩
  simpa [turn, hu] using alike

/-- Whatever the turns of the others, every thread is where its own turns take it. -/
theorem runsAlike_interleave (schedule : List ThreadId)
    (alone : ThreadId → (ThreadId → Running ω τ) × State ω) (same : ∀ t, RunsAlike part b t now (alone t))
    (t : ThreadId) :
    RunsAlike part b t (interleave schedule now)
      (interleave (schedule.filter (· = t)) (alone t)) := by
  induction schedule generalizing now alone with
  | nil => exact same t
  | cons u rest ih =>
    -- A turn of `u` moves all threads together, and only `u` where each is alone.
    have turned (v : ThreadId) : RunsAlike part b v (turn u now)
        (if v = u then turn u (alone u) else alone v) := by
      by_cases hv : v = u
      · subst hv
        rw [if_pos rfl]
        exact (same v).own_turn
      · rw [if_neg hv]
        exact RunsAlike.other_turn hv (same u) (same v)
    have after := ih _ turned
    by_cases ht : u = t
    · subst ht
      rw [if_pos rfl] at after
      simpa [interleave] using after
    · rw [if_neg (Ne.symm ht)] at after
      simpa [interleave, ht] using after

end Turns

/-- All threads that are attached are so with handles of their own, through this backend. -/
def State.AttachedThrough (s : State ω) (b : BackendId) : Prop :=
  ∀ t id, (s.attachments t).handle? = some id →
    ∃ h, s.handles[id.index]? = some h ∧ h.owner = t ∧ h.backend = b

/-- A state agrees with itself for every thread. -/
theorem Coupled.self (installed : s.installed? = some b) (attached : s.AttachedThrough b) (t : ThreadId) :
    Coupled part b t
      (fun id id' => id = id' ∧ ∃ h, s.handles[id.index]? = some h ∧ h.owner = t ∧ h.backend = b) s s s where
  installed := ⟨installed, installed⟩
  owned := rfl
  world := rfl
  calls := rfl
  attachment := by
    refine ⟨?_, rfl, rfl⟩
    cases handle : (s.attachments t).handle? with
    | none => exact .none
    | some id => exact .some ⟨rfl, attached t id handle⟩
  paired := by
    rintro id _ ⟨rfl, h, found, own, through⟩
    exact ⟨h, found, found, own, through⟩
  matched := by
    rintro id _ other _ ⟨rfl, -⟩ ⟨rfl, -⟩
    exact Iff.rfl
  others u _ := Untouched.refl s

/-- Threads do not interfere. Let a backend be installed that keeps a part of its world for every thread, such
that attaching and detaching a thread come to what the part of the thread says, and let threads take turns in
any order, also in the middle of operations, each with its script. What a thread sees, and the calls by which
it is attached and detached, are those of its own turns alone. -/
theorem threads_do_not_interfere (program : HostProgram ω) (separate : program.Separate part shows b)
    (level : Nat) (installed : start.installed? = some b) (attached : start.AttachedThrough b)
    (scripts : ThreadId → Script shows) (schedule : List ThreadId) (t : ThreadId) :
    let threads := fun u => (scripts u).begin (program.host level)
    let all := interleave schedule (threads, start)
    let alone := interleave (schedule.filter (· = t)) (threads, start)
    (all.1 t).seen = (alone.1 t).seen ∧ all.2.callsOn t = alone.2.callsOn t := by
  have same (u : ThreadId) : RunsAlike part b u (fun u => (scripts u).begin (program.host level), start)
      (fun u => (scripts u).begin (program.host level), start) :=
    ⟨_, Coupled.self installed attached u, (scripts u).strand_inStep separate level .nil, rfl⟩
  obtain ⟨ρ, coupled, alike⟩ := runsAlike_interleave schedule _ same t
  exact ⟨alike.seen, coupled.calls⟩

/-! ### Backends that go by the calls of a thread -/

/-- The calls of a thread so far, latest first. -/
def callsIn (t : ThreadId) (ledger : List (ThreadId × Call)) : List Call :=
  (ledger.filter (·.1 = t)).map (·.2)

/-- A host that writes down all calls. It attaches and detaches a thread as the calls of that thread so far
say, and answers the other calls as the calls of all threads so far say. -/
def ledgerHost (decides : ThreadId → List Call → Call → Except Fault Value)
    (answers : List (ThreadId × Call) → Except Fault Value) : HostProgram (List (ThreadId × Call)) :=
  fun _ t _ call ledger =>
    .answer ((t, call) :: ledger)
      (if call.isPrimitive then answers ledger else decides t (callsIn t ledger) call)

/-- Such a host keeps the calls of each thread apart, whatever it goes by, if nothing is shown of its answers
to the other calls. -/
theorem separate_ledgerHost (decides : ThreadId → List Call → Call → Except Fault Value)
    (answers : List (ThreadId × Call) → Except Fault Value) (b : BackendId) :
    (ledgerHost decides answers).Separate callsIn (fun _ => ()) b := by
  intro view t call ledger ledger' same
  refine ⟨⟨?_, fun u hu => ?_⟩, ?_⟩
  · simpa [callsIn] using same
  · simp [callsIn, Ne.symm hu]
  · cases primitive : call.isPrimitive with
    | true => simp [Call.Alike, primitive]
    | false => simp [Call.Alike, primitive, same]

/-- A row of things to ask for, whatever is seen. -/
def Script.row {shows : Except Fault Value → τ} (asks : List (Ask shows)) : Script shows :=
  asks.foldr (fun ask rest => .step ask fun _ => rest) .finish

/-- Refuses to attach a thread on every second call, and counts the calls of all threads. -/
def turnstile : HostProgram (List (ThreadId × Call)) :=
  ledgerHost
    (fun _ calls _ => if calls.length % 2 = 0 then .error (.standard .os "Locked") else .ok .nil)
    fun ledger => .ok (.int ledger.length)

/-- The main thread looks a class up once it is attached; the others are refused twice, forget that, attach,
box a number and detach. -/
def turnstileScript (t : ThreadId) : Script fun (_ : Except Fault Value) => () :=
  if t = .main then
    .withRuntime .finish fun _ => .step .detachRuntime fun _ => .withRuntime
      (.row [.through 0 (.staticClass (.text "java.lang.Math")), .hasRuntime]) fun _ => .finish
  else
    .row [.currentRuntime, .currentRuntime, .detachRuntime, .currentRuntime, .through 0 (.box (.int 3)),
      .hasRuntime, .detachRuntime, .through 0 (.box (.int 3)), .hasRuntime]

/-- A thread at the turnstile. -/
def turnstileWorker : ThreadId := ⟨"worker"⟩

/-- The backend of the turnstile is installed, and nothing has happened yet. -/
def turnstileStart : State (List (ThreadId × Call)) :=
  { State.initial (.ofSettings .nil []) [] with installed? := some ⟨"A"⟩ }

/-- The worker takes its turns between those of two others. -/
def turnstileTurns : List ThreadId := (List.replicate 45 [.main, turnstileWorker, ⟨"other"⟩]).flatten

/-- Threads take these turns at the turnstile. -/
def turnstileRun (turns : List ThreadId) :
    (ThreadId → Running (List (ThreadId × Call)) Unit) × State (List (ThreadId × Call)) :=
  interleave turns (fun t => (turnstileScript t).begin (turnstile.host nestingLimit), turnstileStart)

/-- A worker among others is refused, attached and detached as when it is alone. -/
theorem threads_do_not_interfere_turnstile :
    let refusal := Action.attachFault (.standard .os "Locked")
    ((turnstileRun turnstileTurns).1 turnstileWorker).seen =
      [.refused refusal, .refused (Action.attachedBefore refusal), .truth false, .handle, .answered (),
        .truth true, .truth true, .refused Action.detachedBefore, .truth false] ∧
      (turnstileRun turnstileTurns).2.callsOn turnstileWorker =
        [(⟨"A"⟩, .detach), (⟨"A"⟩, .attach), (⟨"A"⟩, .attach)] := by
  have installed : turnstileStart.installed? = some ⟨"A"⟩ := rfl
  have attached : turnstileStart.AttachedThrough ⟨"A"⟩ := fun _ _ attached => nomatch attached
  have own : turnstileTurns.filter (· = turnstileWorker) = List.replicate 45 turnstileWorker := by decide
  obtain ⟨seen, calls⟩ := threads_do_not_interfere turnstile (separate_ledgerHost _ _ ⟨"A"⟩) nestingLimit
    installed attached turnstileScript turnstileTurns turnstileWorker
  rw [own] at seen calls
  constructor
  · rw [turnstileRun, seen]
    rfl
  · rw [turnstileRun, calls]
    rfl

end HostBridge
