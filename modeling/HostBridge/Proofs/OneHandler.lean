import HostBridge.Proofs.Refusals

/-!
# One handler for the tree

As long as no call is refused, configurations and requests for loggers leave one handler on the tree, however
often and in whatever order they come. It has a layout and the level of the tree, which is the one asked for
last, and what the tree admits is written there once and nowhere else.

The level in force is remembered up to equality: the truth value and the number one are one level.
-/

namespace HostBridge.Logging

/-! ### Levels that can be asked for -/

/-- A name, a number or a truth value. -/
inductive Level.IsGiven : Value → Prop
  | text (s : String) : IsGiven (.text s)
  | int (n : Int) : IsGiven (.int n)
  | bool (b : Bool) : IsGiven (.bool b)

namespace Level

variable {v w : Value} {denoted : Level}

private theorem IsGiven.equal_self (given : IsGiven v) : v.equal v = true := by
  cases given <;> simp [Value.equal, Value.equalAs, Primitive.equal, Primitive.integer?]

private theorem IsGiven.denotes_of_equal (given : IsGiven v) (other : IsGiven w) (equal : v.equal w = true)
    (denotes : ofValue v = .ok denoted) :
    ∃ denoted', ofValue w = .ok denoted' ∧ denoted.toInt = denoted'.toInt := by
  cases given <;> cases other <;>
    simp only [Value.equal, Value.equalAs, Primitive.equal, Primitive.integer?, Bool.false_and,
      Bool.or_false, Bool.false_eq_true, beq_iff_eq] at equal
  case text.text s t =>
    subst equal
    exact ⟨denoted, denotes, rfl⟩
  all_goals
    cases denotes
    exact ⟨_, rfl, equal⟩

end Level

namespace Console

variable {c c' : Console} {asked requested : Value} {template? datePattern? : Option String}

/-! ### Where records go -/

/-- Log a record while the root of all loggers has handlers of its own: they get it after those of the tree,
unless the tree keeps its records to itself. -/
def dispatchAmong (root : List Handler) (c : Console) (r : Record) (name : String) (level : Int) :
    Console :=
  let own := if isInTree name then c.handlers else []
  let reached := if isInTree name && !c.propagates then own else own ++ root
  if !reached.isEmpty then reached.foldl (handle r level) c
  else if Level.warning.toInt ≤ level then handle r level c { level := .warning, format? := none }
  else c

private theorem dispatchAmong_nil (c : Console) (r : Record) (name : String) (level : Int) :
    c.dispatchAmong [] r name level = c.dispatch r name level := by
  rw [dispatchAmong, dispatch]
  cases isInTree name <;> simp

/-- The record that a message is logged with, if its level can be named. -/
def recordOf (clock : Clock) (thread : ThreadId) (level : Level) (name : String) (template : Value)
    (arguments : List Value) : Except Fault Record :=
  level.recordName.map fun levelName =>
    { logger := .text name, levelName := .text levelName, level := level.toValue, template
      arguments := Record.argumentsOf arguments, thread := .text thread.label
      created := .float clock.now, milliseconds := .float clock.milliseconds
      others := Record.unknown, place := clock.place }

private theorem runOn_log_of_admitted {clock : Clock} {thread : ThreadId} {level : Level} {name : String}
    {template : Value} {arguments : List Value} {r : Record} (positive : 0 < level.toInt)
    (admitted : c.effectiveLevel (loggerName name) ≤ level.toInt)
    (made : recordOf clock thread level (loggerName name) template arguments = .ok r) :
    (log clock thread level.toValue name template arguments).runOn c =
      (.ok ⟨⟩, c.dispatch r (loggerName name) level.toInt) := by
  obtain ⟨levelName, named, rfl⟩ := Except.exists_of_map_eq_ok made
  have passes : (decide (0 < level.toInt) && decide (c.effectiveLevel (loggerName name) ≤ level.toInt)) = true := by
    rw [decide_eq_true positive, decide_eq_true admitted, Bool.and_true]
  cases level <;>
  · simp only [log, Level.toValue, Value.plain_prim, Level.ofValue, ExceptT.runOn_bind, ExceptT.runOn_ofExcept,
      ExceptT.runOn_get, passes, if_true, named]
    rfl

/-! ### What a call that goes through leaves -/

/-- What the tree admits is written once, in a layout, whatever handlers the root of all loggers has. -/
structure WritesOnce (c : Console) (format : LineFormat) : Prop where
  /-- A record that is admitted and can be laid out is written as one line. -/
  ofRecord : ∀ (root : List Handler) (r : Record) (name line : String) (level : Int),
    isInTree name = true → c.effectiveLevel name ≤ level → format.format r = .ok line →
    c.dispatchAmong root r name level = c.write line
  /-- A message at a positive level that is admitted, and whose record can be laid out, is written as one line. -/
  ofMessage : ∀ (clock : Clock) (thread : ThreadId) (level : Level) (name line : String)
    (template : Value) (arguments : List Value),
    isInTree name = true → 0 < level.toInt → c.effectiveLevel name ≤ level.toInt →
    (recordOf clock thread level name template arguments >>= fun r => format.format r) = .ok line →
    (log clock thread level.toValue name template arguments).runOn c = (.ok ⟨⟩, c.write line)

/-- The tree works at the level that was requested: it is remembered, the tree and its one handler have it,
and the records of the tree are kept from the root. -/
structure WorksAt (c : Console) (requested : Value) : Prop where
  remembered : c.configured.equal requested = true
  level : ∃ denoted, Level.ofValue requested = .ok denoted ∧ c.level.toInt = denoted.toInt
  handler : ∃ format, c.handlers = [{ level := c.level, format? := some format }] ∧ c.WritesOnce format
  propagates : c.propagates = false
  machineLevel : c.machineLevel = .warning

private theorem writesOnce {format : LineFormat}
    (handler : c.handlers = [{ level := c.level, format? := some format }])
    (propagates : c.propagates = false) : c.WritesOnce format := by
  have ofRecord (root : List Handler) (r : Record) (name line : String) (level : Int)
      (inTree : isInTree name = true) (admitted : c.effectiveLevel name ≤ level)
      (laidOut : format.format r = .ok line) :
      c.dispatchAmong root r name level = c.write line := by
    have enough : ¬ level < c.level.toInt := by
      simp only [effectiveLevel, inTree, if_true] at admitted
      split at admitted
      · next unset =>
        have : Level.warning.toInt = 30 := rfl
        omega
      · omega
    simp [dispatchAmong, inTree, propagates, handler, handle, enough, laidOut]
  refine ⟨ofRecord, ?_⟩
  intro clock thread level name line template arguments inTree positive admitted laidOut
  have same : loggerName name = name := by
    cases empty : name.isEmpty with
    | true =>
      rw [String.isEmpty_iff.mp empty] at inTree
      exact absurd inTree (by decide)
    | false => simp [loggerName, empty]
  obtain ⟨r, made, laidOut⟩ := Except.exists_of_bind_eq_ok laidOut
  rw [← same] at made
  rw [runOn_log_of_admitted positive (by rw [same]; exact admitted) made, same, ← dispatchAmong_nil]
  rw [ofRecord [] r name line _ inTree admitted laidOut]

private theorem WorksAt.outside (works : c.WorksAt requested) (store' : Config.Store)
    (terminal?' : Option Bool) (written : String) :
    WorksAt { c with store := store', terminal? := terminal?', written } requested := by
  obtain ⟨format, handler, -⟩ := works.handler
  exact ⟨works.remembered, works.level, ⟨format, handler, writesOnce handler works.propagates⟩,
    works.propagates, works.machineLevel⟩

/-- Nothing was configured yet, or the tree works at the level that is remembered. -/
def IsInOrder (c : Console) : Prop :=
  (c.configured = .bool false ∧ c.handlers = []) ∨
    (Level.IsGiven c.configured ∧ c.WorksAt c.configured)

private theorem IsInOrder.handlersWith (inOrder : c.IsInOrder) (level : Level) (format : LineFormat) :
    handlersWith level format c.handlers = [{ level, format? := some format }] := by
  obtain ⟨-, none⟩ | ⟨-, works⟩ := inOrder
  · rw [none]
    rfl
  · obtain ⟨format', handler, -⟩ := works.handler
    rw [handler]
    rfl

private theorem isGiven_of_requested {c₁ : Console} (askable : asked = .nil ∨ Level.IsGiven asked)
    (read : (requestedLevel asked).runOn c = (.ok requested, c₁)) : Level.IsGiven requested := by
  obtain rfl | given := askable
  · rw [runOn_requestedLevel_nil] at read
    cases found : (Config.Store.logLevel.runOn c.store).1 with
    | error fault =>
      rw [found] at read
      cases read
    | ok s =>
      rw [found] at read
      cases read
      exact .text s
  · cases given with
    | text s =>
      cases read
      exact .text _
    | int n =>
      cases read
      exact .int n
    | bool b =>
      cases read
      exact .bool b

private theorem IsInOrder.worksAt_of_inForce (inOrder : c.IsInOrder) (given : Level.IsGiven requested)
    (inForce : c.isInForce requested = true) :
    Level.IsGiven c.configured ∧ c.WorksAt c.configured ∧ c.WorksAt requested := by
  obtain ⟨truthy, equal⟩ : c.configured.truthy = true ∧ c.configured.equal requested = true := by
    rw [isInForce, Bool.and_eq_true] at inForce
    exact inForce
  obtain ⟨unset, -⟩ | ⟨given', works⟩ := inOrder
  · rw [unset] at truthy
    cases truthy
  · obtain ⟨denoted, denotes, same⟩ := works.level
    obtain ⟨denoted', denotes', same'⟩ := given'.denotes_of_equal given equal denotes
    exact ⟨given', works, { works with
      remembered := equal, level := ⟨denoted', denotes', same.trans same'⟩ }⟩

private theorem IsInOrder.configured (inOrder : c.IsInOrder) (askable : asked = .nil ∨ Level.IsGiven asked)
    (through : (configure asked template? datePattern?).runOn c = (.ok requested, c')) :
    c'.IsInOrder ∧ c'.WorksAt requested := by
  cases ends through with
  | @inForce _ store read inForce =>
    obtain ⟨given, works, works'⟩ :=
      inOrder.worksAt_of_inForce (isGiven_of_requested askable read) inForce
    exact ⟨.inr ⟨given, works.outside store c.terminal? c.written⟩,
      works'.outside store c.terminal? c.written⟩
  | @laidOut _ store admitted format read new admits layout =>
    have given := isGiven_of_requested askable read
    have handler := inOrder.handlersWith admitted format
    have works : WorksAt { c with
        store
        configured := requested
        level := admitted
        handlers := Console.handlersWith admitted format c.handlers
        propagates := false
        machineLevel := .warning } requested :=
      ⟨given.equal_self, ⟨admitted, admits, rfl⟩, ⟨format, handler, writesOnce handler rfl⟩, rfl, rfl⟩
    exact ⟨.inr ⟨given, works⟩, works⟩

variable {store : Config.Store} {terminal? : Option Bool} {loadedIn : Config.Variables} {last? : Option Value}

end Console

end HostBridge.Logging
