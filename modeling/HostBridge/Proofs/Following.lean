import HostBridge.Proofs.Hosting

/-!
# Work that follows a relation between worlds

The work of a host follows a relation between worlds if the world changes within it wherever control is with
the host: from the start of a call, or from where the host goes on after a request, to the next request or
the end. What the bridge does in between is not the host's work. A relation between states that minds only
what values own and the world is then kept to by all that the host comes to do.
-/

namespace HostBridge

variable {ω σ α β γ : Type}

private theorem Reply.bind_assoc (reply : Reply ω α) (f : α → ω → Reply ω β) (g : β → ω → Reply ω γ) :
    (reply.bind f).bind g = reply.bind fun a w => (f a w).bind g := by
  induction reply with
  | answer w result => cases result <;> rfl
  | callBack w request resume ih =>
    simp only [Reply.bind]
    congr 1
    funext result w
    exact ih result w

/-- Work in three steps may be put together either way. -/
theorem Hosted.bind_assoc (p : Hosted ω α) (f : α → Hosted ω β) (g : β → Hosted ω γ) :
    p >>= f >>= g = p >>= fun a => f a >>= g :=
  funext fun w => (p w).bind_assoc f g

/-- A relation between worlds that holds where nothing changes, and from one change to the next. -/
class Lasting (W : ω → ω → Prop) : Prop where
  refl : ∀ w, W w w
  trans : ∀ {w w' w''}, W w w' → W w' w'' → W w w''

namespace Reply

/-- The work follows the relation, from this world on. -/
def Follows (W : ω → ω → Prop) (start : ω) : Reply ω α → Prop
  | .answer w _ => W start w
  | .callBack w _ resume => W start w ∧ ∀ result w', (resume result w').Follows W w'

variable {W : ω → ω → Prop} {reply : Reply ω α} {start : ω}

section Lasting

variable [Lasting W]

/-- What follows from a world on follows from every world that leads there. -/
theorem Follows.after {w : ω} (first : W start w) (follows : reply.Follows W w) :
    reply.Follows W start := by
  cases reply with
  | answer w' result => exact Lasting.trans first follows
  | callBack w' request resume => exact ⟨Lasting.trans first follows.1, follows.2⟩

/-- Going on after an answer follows the relation if both parts do. -/
theorem Follows.bind {next : α → ω → Reply ω β} (first : reply.Follows W start)
    (rest : ∀ a w, (next a w).Follows W w) : (reply.bind next).Follows W start := by
  induction reply generalizing start with
  | answer w result =>
    cases result with
    | ok a => exact Follows.after first (rest a w)
    | error e => exact first
  | callBack w request resume ih => exact ⟨first.1, fun result w' => ih result w' (first.2 result w')⟩

private theorem Follows.handle {onFault : Fault → ω → Reply ω α} (first : reply.Follows W start)
    (rest : ∀ e w, (onFault e w).Follows W w) : (reply.handle onFault).Follows W start := by
  induction reply generalizing start with
  | answer w result =>
    cases result with
    | ok a => exact first
    | error e => exact Follows.after first (rest e w)
  | callBack w request resume ih => exact ⟨first.1, fun result w' => ih result w' (first.2 result w')⟩

end Lasting

private theorem Follows.of_all (all : ∀ w w', W w w') (reply : Reply ω α) (start : ω) : reply.Follows W start := by
  induction reply generalizing start with
  | answer w result => exact all start w
  | callBack w request resume ih => exact ⟨all start w, fun result w' => ih result w' w'⟩

private theorem Follows.zoom {V : σ → σ → Prop} {part : σ → ω} {replace : σ → ω → σ}
    (amounts : ∀ whole w, W (part whole) w → V whole (replace whole w)) {whole : σ}
    (follows : reply.Follows W (part whole)) : (reply.zoom part replace whole).Follows V whole := by
  induction reply generalizing whole with
  | answer w result => exact amounts whole w follows
  | callBack w request resume ih =>
    exact ⟨amounts whole w follows.1, fun result whole' => ih result _ (follows.2 result (part whole'))⟩

end Reply

/-- The work follows the relation, from whatever world it starts in. -/
def Hosted.Follows (W : ω → ω → Prop) (p : Hosted ω α) : Prop := ∀ w, (p w).Follows W w

namespace Hosted.Follows

variable {W : ω → ω → Prop}

/-- Every work follows a relation between all worlds. -/
theorem of_all (all : ∀ w w', W w w') (p : Hosted ω α) : Follows W p := fun w => .of_all all (p w) w

/-- Work on a part of a larger world follows what changes of the part amount to. -/
theorem zoom {V : σ → σ → Prop} {part : σ → ω} {replace : σ → ω → σ}
    (amounts : ∀ whole w, W (part whole) w → V whole (replace whole w)) {p : Hosted ω α}
    (follows : Follows W p) : Follows V (p.zoom part replace) :=
  fun whole => (follows (part whole)).zoom amounts

/-- Changing the world follows the relation if the change does. -/
theorem modifyGet {f : ω → α × ω} (within : ∀ w, W w (f w).2) :
    Follows W (MonadState.modifyGet f : Hosted ω α) := within

theorem modify {f : ω → ω} (within : ∀ w, W w (f w)) : Follows W (modify f : Hosted ω PUnit) :=
  within

variable [Lasting W]

/-- Giving a value follows every relation. -/
theorem pure (a : α) : Follows W (Pure.pure a : Hosted ω α) := Lasting.refl

/-- Failing follows every relation. -/
theorem throw (e : Fault) : Follows W (MonadExcept.throw e : Hosted ω α) := Lasting.refl

/-- An outcome that is given again follows every relation. -/
theorem ofExcept (r : Except Fault α) : Follows W (MonadExcept.ofExcept r : Hosted ω α) := by
  cases r with
  | ok a => exact pure a
  | error e => exact throw e

/-- Reading the world follows every relation. -/
theorem get : Follows W (MonadState.get : Hosted ω ω) := Lasting.refl

/-- Asking the bridge for something follows every relation. -/
theorem request (q : Request) : Follows W (Hosted.request q : Hosted ω Value) :=
  fun w => ⟨Lasting.refl w, fun _ w' => Lasting.refl w'⟩

/-- A row of steps follows a relation if each does. -/
theorem bind {p : Hosted ω α} {f : α → Hosted ω β} (first : Follows W p) (rest : ∀ a, Follows W (f a)) :
    Follows W (p >>= f) := fun w => (first w).bind fun a => rest a

/-- Catching faults follows a relation if the work and the answers do. -/
theorem tryCatch {p : Hosted ω α} {onFault : Fault → Hosted ω α} (first : Follows W p)
    (rest : ∀ e, Follows W (onFault e)) : Follows W (MonadExcept.tryCatch p onFault) :=
  fun w => (first w).handle fun e => rest e

end Hosted.Follows

/-- All work of a program follows the relation. -/
def HostProgram.Follows (W : ω → ω → Prop) (program : HostProgram ω) : Prop :=
  ∀ view t b call, Hosted.Follows W (program view t b call)

/-- An upkeep is a relation between states that minds only what values own and the world, whose changes
have to stay within a relation of their own. -/
class Upkeep (W : outParam (ω → ω → Prop)) (R : State ω → State ω → Prop) : Prop where
  same : ∀ {s s' : State ω}, s'.owned = s.owned → s'.world = s.world → R s s'
  owning : ∀ (s : State ω) v, R s (s.owning v)
  working : ∀ (s : State ω) w, W s.world w → R s { s with world := w }
  trans : ∀ {s s' s'' : State ω}, R s s' → R s' s'' → R s s''

/-- Upkeeps are custodies. -/
instance Upkeep.custody {W : ω → ω → Prop} {R : State ω → State ω → Prop} [Upkeep W R] : Custody R where
  still still := Upkeep.same still.owned still.world
  trans := Upkeep.trans
  owning := Upkeep.owning

/-- Upkeeps are loose: they do not mind what is attached, noted or marked. -/
instance Upkeep.loose {W : ω → ω → Prop} {R : State ω → State ω → Prop} [Upkeep W R] : Loose R where
  updating _ _ _ := Upkeep.same rfl rfl
  handling _ _ := Upkeep.same rfl rfl
  opened _ _ := Upkeep.same rfl rfl
  forgotten _ _ := Upkeep.same rfl rfl

namespace Upkeep

open HostBridge.Action (Keeps)

variable {W : ω → ω → Prop} {R : State ω → State ω → Prop} [Upkeep W R] {allowed : Operation → Prop}
  [Releases allowed R] {program : HostProgram ω} {answer : Request → Action ω Value} {level : Nat}

omit [Releases allowed R] in
private theorem reply_run (answers : Answers allowed R answer) {reply : Reply ω Value} (uses : reply.Uses allowed)
    (t : ThreadId) {s : State ω} (follows : reply.Follows W s.world) :
    R s ((reply.run answer).runOn t s).2 := by
  induction reply generalizing s with
  | answer w result =>
    simp only [Reply.run, Action.runOn_bind, Action.runOn_modify, Action.runOn_ofExcept]
    exact working s w follows
  | callBack w request resume ih =>
    have asked := answers.keeps request uses.1 t { s with world := w }
    simp only [Reply.run, Action.runOn_bind, Action.runOn_modify, Action.runOn_outcome, Action.runOn_get]
    refine trans (trans (working s w follows.1) asked) ?_
    exact ih _ _ (uses.2 _ _) (follows.2 _ _)

omit [Releases allowed R] in
private theorem keepsTo (follows : program.Follows W) (uses : program.Uses allowed)
    (answers : Answers allowed R answer) : (program.serve answer level).KeepsTo allowed R := by
  refine Loose.keepsTo fun through? b call t s => ?_
  have called : R s (s.noting (.called ⟨t, b, call, through?, level⟩)) := same rfl rfl
  have worked := reply_run answers (uses s.view t b call s.world) t
    (s := s.noting (.called ⟨t, b, call, through?, level⟩)) (follows _ _ _ _ _)
  rw [HostProgram.runOn_serve program level (Prod.eta _).symm]
  exact trans (trans called worked) (same rfl rfl)

/-- So whatever happens with a host whose work follows the relation does. -/
theorem host_keepsTo (follows : program.Follows W) (uses : program.Uses allowed) (level : Nat) :
    (program.host level).KeepsTo allowed R :=
  HostProgram.host_keepsTo (fun _ _ answers => keepsTo follows uses answers) level

end Upkeep

end HostBridge
