import HostBridge.Proofs.Lookups
import HostBridge.Proofs.Marshalling
import HostBridge.Proofs.Stateful

/-!
# Converting objects to primitives

What comes of converting the object that a value owns depends on the object. Primitives and objects of the classes
of boxes are converted. What else an object of the machine is, it has a class with a name, and the conversion is
refused. But what is no object of the machine has no class to name, and asking for it fails with a fault of its own,
which comes out. The in-memory host refuses whatever is no primitive. In no case is the value released.
-/

namespace HostBridge

variable {ω α β : Type}

/-- From each of these worlds the work comes to the result at once, and leaves one of them. -/
def Hosted.Comes (ready : ω → Prop) (p : Hosted ω α) (r : Except Fault α) : Prop :=
  ∀ w, ready w → ∃ w', ready w' ∧ p w = .answer w' r

namespace Hosted.Comes

variable {ready : ω → Prop} {p : Hosted ω α} {f : α → Hosted ω β}

private theorem bind {a : α} {r : Except Fault β} (first : Gives ready p a) (rest : Comes ready (f a) r) :
    Comes ready (p >>= f) r := by
  intro w h
  obtain ⟨w₁, h₁, came⟩ := first w h
  obtain ⟨w₂, h₂, came'⟩ := rest w₁ h₁
  refine ⟨w₂, h₂, ?_⟩
  change (p w).bind f = _
  rw [came]
  exact came'

private theorem fail {fault : Fault} (first : Comes ready p (.error fault)) : Comes ready (p >>= f) (.error fault) := by
  intro w h
  obtain ⟨w₁, h₁, came⟩ := first w h
  refine ⟨w₁, h₁, ?_⟩
  change (p w).bind f = _
  rw [came]
  rfl

end Hosted.Comes

private theorem Reply.of_bind_eq_ok {reply : Reply ω α} {next : α → ω → Reply ω β} {w' : ω} {b : β}
    (came : reply.bind next = .answer w' (.ok b)) :
    ∃ a w, reply = .answer w (.ok a) ∧ next a w = .answer w' (.ok b) := by
  cases reply with
  | answer w result =>
    cases result with
    | ok a => exact ⟨a, w, rfl, came⟩
    | error fault => cases came
  | callBack w request resume => cases came

private theorem Hosted.eq_ok_of_ofExcept {r : Except Fault α} {w w' : ω} {a : α}
    (came : (MonadExcept.ofExcept r : Hosted ω α) w = .answer w' (.ok a)) : r = .ok a := by
  cases r with
  | error fault => cases came
  | ok b =>
    cases came
    rfl

/-! ### Out of the box, or not -/

namespace Jvm

/-- A value of the machine: an object, a class or a method. -/
def IsOfMachine : Value → Prop
  | .javaObject .. | .javaClass _ | .javaMethod .. => True
  | _ => False

/-- A primitive, or an object of one of the classes of boxes. -/
def IsConvertible (v : Value) : Prop :=
  (∃ p, v = .prim p) ∨ ∃ className payload, v = .javaObject className payload ∧ className ∈ boxClasses.map Prod.fst

variable {jvm : Interface ω} {ready : ω → Prop}

/-- The name of the class of an object. -/
def classNameOf (jvm : Interface ω) (ref : Value) : Hosted ω String := do
  let c ← jvm.callMethod ref "getClass" []
  let name ← jvm.callMethod c "getName" []
  jvm.display name

/-- While the machine is in one of these worlds, what it does to convert the object does not throw: the classes of
boxes are found, and a box gives what it holds. Other objects of the machine have a class with a name. What is no
value of the machine has no such attribute. -/
structure Interface.Converts (jvm : Interface ω) (ready : ω → Prop) (ref : Value) : Prop where
  finds : ∀ name ∈ boxClasses.map Prod.fst, (jvm.findClass name).Gives ready (.javaClass name)
  box : ∀ className payload kind, ref = .javaObject className payload →
    boxClasses.lookup className = some kind → ∃ v, (takeOut jvm ref kind).Gives ready v
  object : ∀ className payload, ref = .javaObject className payload → boxClasses.lookup className = none →
    ∃ name, (classNameOf jvm ref).Gives ready name
  other : ¬ IsOfMachine ref → (∀ p, ref ≠ .prim p) →
    ∃ fault, isAbsence fault = true ∧ (jvm.member ref "getClass").Comes ready (.error fault)
  ends : ∃ r, (classNameOf jvm ref).Comes ready r

private theorem int_of_asInteger {v u : Value} (converted : asInteger v = .ok u) : ∃ n, u = .int n := by
  have spelled (cs : List Char) (shown : String) (read : spelledInteger cs shown = .ok u) : ∃ n, u = .int n := by
    unfold spelledInteger at read
    split at read <;> cases read
    exact ⟨_, rfl⟩
  have whole (read : (Text.Template.wholeNumber v).map Value.int = .ok u) : ∃ n, u = .int n := by
    obtain ⟨n, -, same⟩ := Except.exists_of_map_eq_ok read
    exact ⟨n, same.symm⟩
  cases v with
  | prim p => cases p with
    | text s => exact spelled _ _ converted
    | nil => cases converted
    | _ => exact whole converted
  | derived className base => cases base with
    | text s => exact spelled _ _ converted
    | _ => exact whole converted
  | bytes data => exact spelled _ _ converted
  | _ => cases converted

private theorem float_of_asFloat {v u : Value} (converted : asFloat v = .ok u) : ∃ x, u = .float x := by
  have spelled (cs : List Char) (shown : String) (read : spelledFloat cs shown = .ok u) : ∃ x, u = .float x := by
    unfold spelledFloat at read
    split at read <;> cases read
    exact ⟨_, rfl⟩
  have real (read : (Text.Template.realNumber v).map Value.float = .ok u) : ∃ x, u = .float x := by
    obtain ⟨x, -, same⟩ := Except.exists_of_map_eq_ok read
    exact ⟨x, same.symm⟩
  cases v with
  | prim p => cases p with
    | text s => exact spelled _ _ converted
    | nil => cases converted
    | _ => exact real converted
  | derived className base => cases base with
    | text s => exact spelled _ _ converted
    | _ => exact real converted
  | bytes data => exact spelled _ _ converted
  | _ => cases converted

private theorem prim_of_takeOut {ref v : Value} {kind : BoxKind} {w w' : ω}
    (taken : takeOut jvm ref kind w = .answer w' (.ok v)) : ∃ p, v = .prim p := by
  cases kind with
  | text =>
    obtain ⟨text, _, -, given⟩ := Reply.of_bind_eq_ok taken
    cases given
    exact ⟨_, rfl⟩
  | bool =>
    obtain ⟨got, _, -, given⟩ := Reply.of_bind_eq_ok taken
    cases given
    exact ⟨_, rfl⟩
  | int =>
    obtain ⟨got, _, -, given⟩ := Reply.of_bind_eq_ok taken
    obtain ⟨n, rfl⟩ := int_of_asInteger (Hosted.eq_ok_of_ofExcept given)
    exact ⟨_, rfl⟩
  | float =>
    obtain ⟨got, _, -, given⟩ := Reply.of_bind_eq_ok taken
    obtain ⟨x, rfl⟩ := float_of_asFloat (Hosted.eq_ok_of_ofExcept given)
    exact ⟨_, rfl⟩

private theorem unboxWith_comes {ref : Value} {r : Except Fault Value} {classes : List (String × BoxKind)}
    (finds : ∀ name ∈ classes.map Prod.fst, (jvm.findClass name).Gives ready (.javaClass name))
    (none : ∀ name ∈ classes.map Prod.fst, isInstance ref (.javaClass name) = false)
    (asked : (unboxWith jvm ref []).Comes ready r) : (unboxWith jvm ref classes).Comes ready r := by
  induction classes with
  | nil => exact asked
  | cons entry rest ih =>
    refine .bind (finds _ List.mem_cons_self) ?_
    rw [none _ List.mem_cons_self]
    exact ih (fun name there => finds name (List.mem_cons_of_mem _ there))
      fun name there => none name (List.mem_cons_of_mem _ there)

/-- The fault of an object that is no box. -/
def noPrimitive (className : String) : Fault := .plain .marshalling ("No primitive conversion for " ++ className)

private theorem asked_comes {ref : Value} {r : Except Fault String} (named : (classNameOf jvm ref).Comes ready r) :
    (unboxWith jvm ref []).Comes ready (.error (match r with
      | .ok name => noPrimitive name
      | .error fault => fault)) := by
  have asks : unboxWith jvm ref [] = classNameOf jvm ref >>= fun name => throw (noPrimitive name) := by
    simp only [unboxWith, classNameOf, Hosted.bind_assoc]
    rfl
  rw [asks]
  cases r with
  | ok name => exact .bind named fun w h => ⟨w, h, rfl⟩
  | error fault => exact .fail named

/-- How a conversion ends: with a primitive exactly if the object is convertible, with a refusal for another object
of the machine, and with the fault of an absent attribute for what is no value of the machine. -/
structure EndsByType (ref : Value) (r : Except Fault Value) : Prop where
  converted_iff : (∃ v, r = .ok v) ↔ IsConvertible ref
  primitive : ∀ v, r = .ok v → ∃ p, v = .prim p
  refused : ∀ className payload, ref = .javaObject className payload → ¬ IsConvertible ref →
    ∃ message, r = .error (.plain .marshalling message)
  escaped : ¬ IsOfMachine ref → ¬ IsConvertible ref → ∃ fault, r = .error fault ∧ isAbsence fault = true

private theorem isInstance_eq_false {ref : Value} (other : ¬ IsConvertible ref) {name : String}
    (listed : name ∈ boxClasses.map Prod.fst) : isInstance ref (.javaClass name) = false := by
  cases ref with
  | javaObject className payload =>
    rw [isInstance, beq_eq_false_iff_ne]
    rintro rfl
    exact other (.inr ⟨_, payload, rfl, listed⟩)
  | _ => rfl

private theorem exists_kind {className : String} (listed : className ∈ boxClasses.map Prod.fst) :
    ∃ kind, boxClasses.lookup className = some kind := by
  rw [← Option.ne_none_iff_exists', ne_eq, List.lookup_eq_none_iff]
  intro none
  obtain ⟨entry, there, rfl⟩ := List.mem_map.mp listed
  exact bne_iff_ne.mp (none entry there) rfl

private theorem lookup_boxClasses_eq_none {className : String} (other : className ∉ boxClasses.map Prod.fst) :
    boxClasses.lookup className = none := by
  rw [List.lookup_eq_none_iff]
  intro entry there
  rw [bne_iff_ne]
  rintro rfl
  exact other (List.mem_map_of_mem there)

private theorem classNameOf_comes {ref : Value} {fault : Fault}
    (absent : (jvm.member ref "getClass").Comes ready (.error fault)) :
    (classNameOf jvm ref).Comes ready (.error fault) :=
  .fail (.fail absent)

private theorem unbox_gives_prim {ref : Value} (converts : jvm.Converts ready ref) (convertible : IsConvertible ref)
    {w : ω} (h : ready w) : ∃ p, (unbox jvm ref).Gives ready (.prim p) := by
  rcases convertible with ⟨p, rfl⟩ | ⟨className, payload, rfl, listed⟩
  · exact ⟨p, .pure _⟩
  · obtain ⟨kind, found⟩ := exists_kind listed
    obtain ⟨v, taken⟩ := converts.box className payload kind rfl found
    obtain ⟨w', -, came⟩ := taken w h
    obtain ⟨p, rfl⟩ := prim_of_takeOut came
    exact ⟨p, unboxWith_gives (fun _ => rfl) taken converts.finds found⟩

private theorem unbox_comes_of_other {ref : Value} (converts : jvm.Converts ready ref) (other : ¬ IsConvertible ref)
    {r : Except Fault String} (named : (classNameOf jvm ref).Comes ready r) :
    (unbox jvm ref).Comes ready (.error (match r with
      | .ok name => noPrimitive name
      | .error fault => fault)) := by
  have tried : unbox jvm ref = unboxWith jvm ref boxClasses := by
    cases ref with
    | prim p => exact (other (.inl ⟨p, rfl⟩)).elim
    | _ => rfl
  rw [tried]
  exact unboxWith_comes converts.finds (fun name listed => isInstance_eq_false other listed) (asked_comes named)

private theorem unbox_endsByType {ref : Value} (converts : jvm.Converts ready ref) {w : ω} (h : ready w) :
    ∃ r, (unbox jvm ref).Comes ready r ∧ EndsByType ref r := by
  by_cases convertible : IsConvertible ref
  · obtain ⟨p, came⟩ := unbox_gives_prim converts convertible h
    refine ⟨.ok (.prim p), came, ⟨iff_of_true ⟨_, rfl⟩ convertible, ?_, ?_, ?_⟩⟩
    · rintro v ⟨⟩
      exact ⟨p, rfl⟩
    · exact fun _ _ _ other => (other convertible).elim
    · exact fun _ other => (other convertible).elim
  · have refuses (fault : Fault) : (∃ v, (.error fault : Except Fault Value) = .ok v) ↔ IsConvertible ref :=
      iff_of_false (fun ⟨_, same⟩ => nomatch same) convertible
    by_cases object : ∃ className payload, ref = .javaObject className payload
    · obtain ⟨className, payload, rfl⟩ := object
      have unlisted : className ∉ boxClasses.map Prod.fst :=
        fun listed => convertible (.inr ⟨className, payload, rfl, listed⟩)
      obtain ⟨name, named⟩ := converts.object className payload rfl (lookup_boxClasses_eq_none unlisted)
      refine ⟨_, unbox_comes_of_other converts convertible (r := .ok name) named,
        ⟨refuses _, fun _ same => (nomatch same), fun _ _ _ _ => ⟨_, rfl⟩, fun foreign => (foreign trivial).elim⟩⟩
    · by_cases foreign : IsOfMachine ref
      · obtain ⟨r, named⟩ := converts.ends
        refine ⟨_, unbox_comes_of_other converts convertible named, ⟨refuses _, fun _ same => (nomatch same), ?_,
          fun other => (other foreign).elim⟩⟩
        exact fun className payload same => (object ⟨className, payload, same⟩).elim
      · obtain ⟨fault, isAbsent, absent⟩ :=
          converts.other foreign fun p same => convertible (.inl ⟨p, same⟩)
        refine ⟨_, unbox_comes_of_other converts convertible (classNameOf_comes absent),
          ⟨refuses _, fun _ same => (nomatch same), ?_, fun _ _ => ⟨fault, rfl, isAbsent⟩⟩⟩
        exact fun className payload same => (object ⟨className, payload, same⟩).elim

private theorem conversionFault_of_isAbsence {fault : Fault} (absent : isAbsence fault = true) :
    Action.conversionFault fault = fault := by
  cases fault with
  | standard kind message => cases kind <;> first | rfl | cases absent
  | misuse kind detail => cases kind <;> first | rfl | cases absent
  | _ => cases absent

private theorem EndsByType.reported {ref : Value} {r : Except Fault Value} (ends : EndsByType ref r) :
    EndsByType ref (r.mapError Action.conversionFault) := by
  cases r with
  | ok v => exact ends
  | error fault =>
    refine ⟨?_, fun _ same => (nomatch same), fun className payload same other => ?_, fun foreign other => ?_⟩
    · rw [← ends.converted_iff]
      exact iff_of_false (fun ⟨_, same⟩ => nomatch same) fun ⟨_, same⟩ => nomatch same
    · obtain ⟨message, refused⟩ := ends.refused className payload same other
      cases refused
      exact ⟨message, rfl⟩
    · obtain ⟨fault', same, isAbsent⟩ := ends.escaped foreign other
      cases same
      exact ⟨fault, congrArg Except.error (conversionFault_of_isAbsence isAbsent), isAbsent⟩

end Jvm

/-! ### On an attached thread -/

/-- The value owns the object, and the thread is attached to a host that is ready, through this backend. -/
structure State.Holds (s : State ω) (ready : ω → Prop) (t : ThreadId) (b : BackendId) (id : OpaqueId)
    (ref : Value) : Prop where
  owned : s.view id = some ref
  attached : ∃ rt, (s.attachments t).handle? = some rt ∧ s.handles[rt.index]? = some ⟨b, t, false⟩
  ready : ready s.world

/-- Wherever the value owns the object, converting it comes to this. It releases nothing, and can be done again. -/
def HostProgram.Converts (program : HostProgram ω) (level : Nat) (ready : ω → Prop) (t : ThreadId) (b : BackendId)
    (id : OpaqueId) (ref : Value) (r : Except Fault Value) : Prop :=
  ∀ s : State ω, s.Holds ready t b id ref →
    ∃ s', (Action.toPrimitive (program.host level) id).runOn t s = (r, s') ∧ s'.owned = s.owned ∧
      s'.Holds ready t b id ref

section Converting

variable {program : HostProgram ω} {ready : ω → Prop} {t : ThreadId} {b : BackendId} {id : OpaqueId} {ref : Value}

private theorem HostProgram.runOn_host_of_answer (program : HostProgram ω) (level : Nat) {s : State ω} {call : Call}
    {r : Except Fault Value} {w : ω} (answered : program s.view t b call s.world = .answer w r)
    (through? : Option HandleId) :
    ∃ journal, (program.host level through? b call).runOn t s = (r, { s with world := w, journal }) := by
  have ran : ((program s.view t b call s.world).run (program.answers level)).runOn t
      (s.noting (.called ⟨t, b, call, through?, level⟩)) =
      (r, { s.noting (.called ⟨t, b, call, through?, level⟩) with world := w }) := by
    rw [answered]
    cases r <;> rfl
  rw [HostProgram.host_eq_serve, HostProgram.runOn_serve program level ran]
  exact ⟨_, rfl⟩

private theorem HostProgram.converts_nil (program : HostProgram ω) (level : Nat) :
    program.Converts level ready t b id .nil (.ok .nil) := by
  intro s holds
  refine ⟨s, ?_, rfl, holds⟩
  rw [Action.toPrimitive, Action.runOn_bind, Action.runOn_reference_of_owned holds.owned]
  rfl

private theorem HostProgram.converts_of_comes (level : Nat) {r : Except Fault Value} (present : ref ≠ .nil)
    (unboxed : ∀ view, (program view t b (.unbox ref)).Comes ready r) :
    program.Converts level ready t b id ref (r.mapError Action.conversionFault) := by
  intro s holds
  obtain ⟨rt, cached, live⟩ := holds.attached
  obtain ⟨w, ready', answered⟩ := unboxed s.view s.world holds.ready
  obtain ⟨journal, served⟩ := program.runOn_host_of_answer level answered (some rt)
  refine ⟨{ s with world := w, journal }, ?_, rfl, ⟨holds.owned, ⟨rt, cached, live⟩, ready'⟩⟩
  have crossed : (Action.withRuntime (program.host level) fun rt =>
      Action.unbox (program.host level) rt ref).runOn t s = (r, { s with world := w, journal }) := by
    rw [Action.withRuntime, Action.runOn_bind, Action.runOn_currentRuntime_of_handle _ cached]
    change (Action.cross (program.host level) rt (.unbox ref)).runOn t s = _
    rw [Action.cross, Action.runOn_bind, Action.runOn_checked_of_live live rfl rfl]
    exact served
  rw [Action.runOn_toPrimitive_of_present _ holds.owned present, Action.converting, Action.runOn_bind,
    Action.runOn_outcome, crossed]
  cases r <;> rfl

end Converting

/-- On a machine whose conversions do not throw, converting ends by the type of the object. -/
theorem Jvm.Interface.Converts.endsByType {jvm : Jvm.Interface ω} {ready : ω → Prop} {t : ThreadId} {b : BackendId}
    {id : OpaqueId} {ref : Value} (converts : jvm.Converts ready ref) (level : Nat) {s : State ω}
    (holds : s.Holds ready t b id ref) :
    ∃ r, jvm.program.Converts level ready t b id ref r ∧ Jvm.EndsByType ref r := by
  by_cases absent : ref = .nil
  · subst absent
    refine ⟨.ok .nil, jvm.program.converts_nil level, iff_of_true ⟨_, rfl⟩ (.inl ⟨.nil, rfl⟩), ?_, ?_, ?_⟩
    · rintro v ⟨⟩
      exact ⟨.nil, rfl⟩
    · exact fun _ _ _ other => (other (.inl ⟨.nil, rfl⟩)).elim
    · exact fun _ other => (other (.inl ⟨.nil, rfl⟩)).elim
  · obtain ⟨r, unboxed, ends⟩ := Jvm.unbox_endsByType converts holds.ready
    exact ⟨_, HostProgram.converts_of_comes level absent fun _ => unboxed, ends.reported⟩

/-- In memory no failures are arranged. -/
def Worlds.Willing (w : Worlds) : Prop := w.memory.rules = []

/-- What comes of converting an object in memory: what is passed by value is given, and all else is refused. -/
def Memory.converted (ref : Value) : Except Fault Value :=
  match ref with
  | .prim p => .ok (.prim p)
  | .derived className base => .ok (.derived className base)
  | ref => .error (.plain .marshalling ("No primitive conversion for " ++ ref.typeName))

private theorem hosts_unbox_comes {b : BackendId} (inMemory : b ≠ defaultBackend) (view : OpaqueView) (t : ThreadId)
    (ref : Value) : (hosts view t b (.unbox ref)).Comes Worlds.Willing (Memory.converted ref) := by
  intro w willing
  let shown : Memory.World := { w.memory with owned := view }
  have rules : shown.rules = [] := willing
  have performed : Memory.perform b (.unbox ref) shown =
      .answer { shown with seen := (b, .unbox ref) :: shown.seen } (Memory.converted ref) := by
    rw [Memory.World.perform_of_noRules rules rfl]
    cases ref <;> rfl
  refine ⟨⟨{ shown with seen := (b, .unbox ref) :: shown.seen }, { w.machine with owned := view }⟩, willing, ?_⟩
  change (if b = defaultBackend then _ else _ : Hosted Worlds Value) (w.showing view) = _
  rw [if_neg inMemory]
  change Reply.zoom _ _ _ (Memory.perform b (.unbox ref) shown) = _
  rw [performed]
  rfl

/-- In memory, conversions come to just that. -/
theorem hosts_converts {b : BackendId} (inMemory : b ≠ defaultBackend) (level : Nat) (t : ThreadId) (id : OpaqueId)
    (ref : Value) : hosts.Converts level Worlds.Willing t b id ref (Memory.converted ref) := by
  have reported : (Memory.converted ref).mapError Action.conversionFault = Memory.converted ref := by
    cases ref <;> rfl
  by_cases absent : ref = .nil
  · subst absent
    exact hosts.converts_nil level
  · rw [← reported]
    exact HostProgram.converts_of_comes level absent fun view => hosts_unbox_comes inMemory view t ref

/-! ### A plain machine -/

namespace Jvm.Script

private theorem member_comes_of_foreign {ref : Value} (foreign : ¬ IsOfMachine ref) (name : String) :
    (interface.member ref name).Comes IsPlain (.error (.misuse .absentAttribute (absenceText ref name))) := by
  intro s plain
  have none : s.member? ref name = none := by
    cases ref <;> first | rfl | exact (foreign trivial).elim
  refine ⟨s, plain, ?_⟩
  simp only [interface]
  change Reply.bind (.answer s (.ok s)) _ = _
  simp only [Reply.bind, none]
  rfl

/-- A plain machine does what is asked of it to convert other values. -/
theorem converts_of_foreign {ref : Value} (foreign : ¬ IsOfMachine ref) : interface.Converts IsPlain ref where
  finds := keepsPrimitives.finds
  box className payload _ same _ := by
    subst same
    exact (foreign trivial).elim
  object className payload same _ := by
    subst same
    exact (foreign trivial).elim
  other _ _ := ⟨_, rfl, member_comes_of_foreign foreign _⟩
  ends := ⟨_, classNameOf_comes (member_comes_of_foreign foreign _)⟩

end Jvm.Script

/-! ### By type -/

/-- Conversions end by the type of the object, and never release the value. On a machine whose conversions do not
throw, an object is converted to a primitive exactly if it is one or belongs to a class of boxes, and another object
of the machine is refused; but a value that is none of the machine ends the conversion with the fault of asking it
for its class, which is no fault of the bridge. In memory the same values are refused. -/
theorem conversions_end_by_type (level : Nat) (t : ThreadId) (id : OpaqueId) (ref : Value) :
    (∀ {ω : Type} (jvm : Jvm.Interface ω) (ready : ω → Prop) (s : State ω), jvm.Converts ready ref →
      s.Holds ready t defaultBackend id ref →
      ∃ r, jvm.program.Converts level ready t defaultBackend id ref r ∧ Jvm.EndsByType ref r) ∧
    ∀ b, b ≠ defaultBackend → hosts.Converts level Worlds.Willing t b id ref (Memory.converted ref) :=
  ⟨fun _ _ _ converts holds => converts.endsByType level holds,
    fun _ inMemory => hosts_converts inMemory level t id ref⟩

/-- The main thread is attached to a plain machine, and a value owns a list. -/
def owningList : State Jvm.Script :=
  { State.initial (.ofSettings .nil []) { Jvm.Script.idle with started := true } with
    attachments := fun _ => { handle? := some ⟨0⟩, failure? := none, attaching := false }
    handles := [⟨defaultBackend, .main, false⟩]
    owned := [some (.list [.int 1])] }

/-- A list has no class to name on a machine, and is refused in memory. -/
theorem conversions_end_by_type_list :
    (∃ fault s', (Action.toPrimitive (Jvm.Script.interface.program.host nestingLimit) ⟨0⟩).runOn .main owningList =
      (.error fault, s') ∧ Jvm.isAbsence fault = true ∧ s'.owned = owningList.owned) ∧
    hosts.Converts nestingLimit Worlds.Willing .main Memory.firstBackend ⟨0⟩ (.list [.int 1])
      (.error (.plain .marshalling "No primitive conversion for list")) := by
  have foreign : ¬ Jvm.IsOfMachine (.list [.int 1]) := id
  have unboxed : ¬ Jvm.IsConvertible (.list [.int 1]) := by
    rintro (⟨_, same⟩ | ⟨_, _, same, -⟩) <;> cases same
  have holds : owningList.Holds Jvm.Script.IsPlain .main defaultBackend ⟨0⟩ (.list [.int 1]) :=
    ⟨rfl, ⟨⟨0⟩, rfl, rfl⟩, rfl, rfl, rfl⟩
  obtain ⟨onMachine, inMemory⟩ := conversions_end_by_type nestingLimit .main ⟨0⟩ (.list [.int 1])
  refine ⟨?_, inMemory Memory.firstBackend (by decide)⟩
  obtain ⟨r, converts, ends⟩ := onMachine Jvm.Script.interface Jvm.Script.IsPlain owningList
    (Jvm.Script.converts_of_foreign foreign) holds
  obtain ⟨fault, rfl, absence⟩ := ends.escaped foreign unboxed
  obtain ⟨s', ran, owned, -⟩ := converts owningList holds
  exact ⟨fault, s', ran, absence, owned⟩

end HostBridge
