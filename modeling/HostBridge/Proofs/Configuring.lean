import HostBridge.Logging.Console
import HostBridge.Proofs.SettingsRead

/-!
# What a configuration of logging comes to

The outcome of configuring the tree, stage by stage: the level may not be readable, it may be in force
already, it may be no level, or the layout of lines may be refused. Every stage writes before the next one
is tried, so a refusal keeps what the stages before it have written.
-/

namespace HostBridge.Logging

open Config (Store)

namespace Console

variable {c c₁ c' : Console} {level requested : Value} {template? datePattern? : Option String}

/-- Reading the level that is asked for changes the configuration of the process only. -/
theorem runOn_requestedLevel_snd (level : Value) (c : Console) :
    ∃ store, ((requestedLevel level).runOn c).2 = { c with store } := by
  unfold requestedLevel
  split
  · exact ⟨c.store, rfl⟩
  · exact ⟨_, rfl⟩
  · exact ⟨c.store, rfl⟩

/-- Without a level, the one of the configuration of the process is asked for. -/
theorem runOn_requestedLevel_nil (c : Console) :
    (requestedLevel .nil).runOn c =
      ((Store.logLevel.runOn c.store).1.map .text, { c with store := (Store.logLevel.runOn c.store).2 }) :=
  rfl

/-- A level that was read is read again as it was. -/
theorem requestedLevel_again (read : (requestedLevel level).runOn c = (.ok requested, c₁))
    (store : c'.store = c₁.store) : (requestedLevel level).runOn c' = (.ok requested, c') := by
  unfold requestedLevel at read ⊢
  split at read
  · cases read
    rfl
  · change (requestedLevel .nil).runOn c = _ at read
    change (requestedLevel .nil).runOn c' = _
    rw [runOn_requestedLevel_nil] at read ⊢
    cases found : Store.logLevel.runOn c.store with
    | mk result store₁ =>
    rw [found] at read
    cases result with
    | error fault => cases read
    | ok s =>
      cases read
      have same : c'.store = store₁ := store
      rw [same, Store.logLevel_again found, ← same]
      rfl
  · cases read
    rfl

/-- A level that cannot be read ends the configuration. -/
theorem runOn_configure_of_unread {fault : Fault}
    (unread : (requestedLevel level).runOn c = (.error fault, c₁)) :
    (configure level template? datePattern?).runOn c = (.error fault, c₁) := by
  simp [configure, unread]

/-- A level in force is given back at once. -/
theorem runOn_configure_of_inForce (read : (requestedLevel level).runOn c = (.ok requested, c₁))
    (inForce : c₁.isInForce requested = true) :
    (configure level template? datePattern?).runOn c = (.ok requested, c₁) := by
  simp [configure, read, inForce]

/-- What is no level is remembered all the same. -/
theorem runOn_configure_of_noLevel {fault : Fault}
    (read : (requestedLevel level).runOn c = (.ok requested, c₁))
    (new : c₁.isInForce requested = false) (noLevel : Level.ofValue requested = .error fault) :
    (configure level template? datePattern?).runOn c =
      (.error fault, { c₁ with configured := requested }) := by
  simp [configure, read, new, noLevel]

/-- A layout that is refused leaves the level behind, on the tree and on its handler. -/
theorem runOn_configure_of_noLayout {fault : Fault} {admitted : Level}
    (read : (requestedLevel level).runOn c = (.ok requested, c₁))
    (new : c₁.isInForce requested = false) (admits : Level.ofValue requested = .ok admitted)
    (noLayout : c₁.layout template? datePattern? = .error fault) :
    (configure level template? datePattern?).runOn c =
      (.error fault, { c₁ with
        configured := requested
        level := admitted
        handlers := (prepareHandler admitted c₁.handlers).2 }) := by
  have same : Console.layout { c₁ with
      configured := requested
      level := admitted
      handlers := (prepareHandler admitted c₁.handlers).2 } template? datePattern? = .error fault :=
    noLayout
  simp [configure, read, new, admits, same]

/-- The handlers once the one that was prepared has got its layout. -/
def handlersWith (level : Level) (format : LineFormat) (handlers : List Handler) : List Handler :=
  (prepareHandler level handlers).2.modify (prepareHandler level handlers).1
    fun h => { h with format? := some format }

/-- A configuration with a layout gives it to the handler, and the tree keeps its records to itself. -/
theorem runOn_configure_of_layout {format : LineFormat} {admitted : Level}
    (read : (requestedLevel level).runOn c = (.ok requested, c₁))
    (new : c₁.isInForce requested = false) (admits : Level.ofValue requested = .ok admitted)
    (layout : c₁.layout template? datePattern? = .ok format) :
    (configure level template? datePattern?).runOn c =
      (.ok requested, { c₁ with
        configured := requested
        level := admitted
        handlers := handlersWith admitted format c₁.handlers
        propagates := false
        machineLevel := .warning }) := by
  have same : Console.layout { c₁ with
      configured := requested
      level := admitted
      handlers := (prepareHandler admitted c₁.handlers).2 } template? datePattern? = .ok format :=
    layout
  simp [configure, read, new, admits, same, handlersWith, Except.map]

/-- How a configuration ends, by the stage that it comes to. -/
inductive Ends (c : Console) (level : Value) (template? datePattern? : Option String) :
    Except Fault Value → Console → Prop
  | unread {fault : Fault} {store : Store}
      (unread : (requestedLevel level).runOn c = (.error fault, { c with store })) :
      Ends c level template? datePattern? (.error fault) { c with store }
  | inForce {requested : Value} {store : Store}
      (read : (requestedLevel level).runOn c = (.ok requested, { c with store }))
      (inForce : c.isInForce requested = true) :
      Ends c level template? datePattern? (.ok requested) { c with store }
  | noLevel {requested : Value} {store : Store} {fault : Fault}
      (read : (requestedLevel level).runOn c = (.ok requested, { c with store }))
      (new : c.isInForce requested = false) (noLevel : Level.ofValue requested = .error fault) :
      Ends c level template? datePattern? (.error fault) { c with store, configured := requested }
  | noLayout {requested : Value} {store : Store} {admitted : Level} {fault : Fault}
      (read : (requestedLevel level).runOn c = (.ok requested, { c with store }))
      (new : c.isInForce requested = false) (admits : Level.ofValue requested = .ok admitted)
      (noLayout : Console.layout { c with store } template? datePattern? = .error fault) :
      Ends c level template? datePattern? (.error fault) { c with
        store
        configured := requested
        level := admitted
        handlers := (prepareHandler admitted c.handlers).2 }
  | laidOut {requested : Value} {store : Store} {admitted : Level} {format : LineFormat}
      (read : (requestedLevel level).runOn c = (.ok requested, { c with store }))
      (new : c.isInForce requested = false) (admits : Level.ofValue requested = .ok admitted)
      (layout : Console.layout { c with store } template? datePattern? = .ok format) :
      Ends c level template? datePattern? (.ok requested) { c with
        store
        configured := requested
        level := admitted
        handlers := handlersWith admitted format c.handlers
        propagates := false
        machineLevel := .warning }

/-- Every configuration ends in one of these ways. -/
theorem ends {r : Except Fault Value}
    (went : (configure level template? datePattern?).runOn c = (r, c')) :
    c.Ends level template? datePattern? r c' := by
  obtain ⟨store, written⟩ := runOn_requestedLevel_snd level c
  cases read : (requestedLevel level).runOn c with
  | mk result c₁ =>
  rw [read] at written
  subst written
  cases result with
  | error fault =>
    rw [runOn_configure_of_unread read] at went
    cases went
    exact .unread read
  | ok requested =>
    cases new : c.isInForce requested with
    | true =>
      rw [runOn_configure_of_inForce read new] at went
      cases went
      exact .inForce read new
    | false =>
      cases admits : Level.ofValue requested with
      | error fault =>
        rw [runOn_configure_of_noLevel read new admits] at went
        cases went
        exact .noLevel read new admits
      | ok admitted =>
        cases layout : Console.layout { c with store } template? datePattern? with
        | error fault =>
          rw [runOn_configure_of_noLayout read new admits layout] at went
          cases went
          exact .noLayout read new admits layout
        | ok format =>
          rw [runOn_configure_of_layout read new admits layout] at went
          cases went
          exact .laidOut read new admits layout

end Console

end HostBridge.Logging
