import Mathlib.Order.Monotone.Defs
import SecretServer.Database.RowTimes

namespace SecretServer.Database

open Text Concurrency AppDbContext

/-! A context between its saves, and its saves one after another. -/

/-- The readings of `DateTime.UtcNow`, none of which is before an earlier one. -/
structure Clock where
  utcNow : Nat → DateTime
  monotone : Monotone fun reading => (utcNow reading).ticks

variable {ω : Type}

/-- The state of an entity once one of its fields has been assigned. -/
def EntityState.modify : EntityState → EntityState
  | .unchanged => .modified
  | state => state

/-- The `CreatedAt` of the entity, in ticks. -/
def Entity.createdAt? (entity : Entity ω) : Option Nat :=
  entity.row?.map (·.2.createdAt)

/-- The entity is a stored row, as a query gives it back. -/
def Db.Holds (db : Db) : Entity ω → Prop
  | .secret row => row ∈ db.secrets.rows
  | .user row => row ∈ db.users.rows
  | .other _ => True

namespace EntityEntry

/-- What the tracker tells an entry by. -/
def label (entry : EntityEntry ω) : Option RowKey × EntityState :=
  (entry.key?, entry.state)

/-- One key may stand for two entities where one of them is on its way out and the
other one replaces it. -/
def Apart (first second : Option RowKey × EntityState) : Prop :=
  ∀ key, first.1 = some key → second.1 = some key →
    first.2 = .deleted ∧ second.2 = .added ∨ first.2 = .added ∧ second.2 = .deleted

/-- An entity that is taken to be stored carries the `CreatedAt` of its row. -/
def InSync (db : Db) (entry : EntityEntry ω) : Prop :=
  ∀ key times stored, entry.state = .unchanged ∨ entry.state = .modified →
    entry.entity.row? = some (key, times) → db.auditTimes key = some stored →
    stored.createdAt = times.createdAt

/-- What `Remove` makes of an entry.  One that was to be added is just forgotten. -/
def remove (entry : EntityEntry ω) : Option (EntityEntry ω) :=
  match entry.state with
  | .added => none
  | .detached => none
  | _ => some { entry with state := .deleted }

/-- What `AcceptAllChanges` makes of an entry. -/
def accepted (entry : EntityEntry ω) : Option (EntityEntry ω) :=
  match entry.state with
  | .added => some { entry with state := .unchanged }
  | .modified => some { entry with state := .unchanged }
  | .unchanged => some entry
  | .deleted => none
  | .detached => none

end EntityEntry

structure ChangeTracker (ω : Type) where
  entries : List (EntityEntry ω)
  apart : (entries.map EntityEntry.label).Pairwise EntityEntry.Apart

namespace ChangeTracker

def InSync (db : Db) (tracker : ChangeTracker ω) : Prop :=
  ∀ entry ∈ tracker.entries, entry.InSync db

theorem label_stamped {utcNow : Nat → DateTime} {readings : Nat}
    {before after : EntityEntry ω} (stamped : Stamped utcNow readings before after) :
    before.label = after.label := by
  cases stamped with
  | added => simp [EntityEntry.label, EntityEntry.key?]
  | modified => simp [EntityEntry.label, EntityEntry.key?]
  | untouched => rfl

theorem map_label_stamped (utcNow : Nat → DateTime) (entries : List (EntityEntry ω)) :
    entries.map EntityEntry.label =
      (AppDbContext.setTimeAuditedColumns utcNow entries).map EntityEntry.label := by
  have labels : List.Forall₂ Eq (entries.map EntityEntry.label)
      ((AppDbContext.setTimeAuditedColumns utcNow entries).map EntityEntry.label) := by
    rw [List.forall₂_map_left_iff, List.forall₂_map_right_iff]
    exact (setTimeAuditedColumns_stamps utcNow entries).imp fun _ _ => label_stamped
  rwa [List.forall₂_eq_eq_eq] at labels

def setTimeAuditedColumns (utcNow : Nat → DateTime) (tracker : ChangeTracker ω) :
    ChangeTracker ω where
  entries := AppDbContext.setTimeAuditedColumns utcNow tracker.entries
  apart := map_label_stamped utcNow tracker.entries ▸ tracker.apart

theorem eq_of_accepted {entry kept : EntityEntry ω} (accepts : entry.accepted = some kept) :
    kept = ⟨entry.entity, .unchanged⟩ ∧
      (entry.state = .added ∨ entry.state = .modified ∨ entry.state = .unchanged) := by
  obtain ⟨entity, state⟩ := entry
  cases state with
  | added => exact ⟨(Option.some.inj accepts).symm, .inl rfl⟩
  | modified => exact ⟨(Option.some.inj accepts).symm, .inr (.inl rfl)⟩
  | unchanged => exact ⟨(Option.some.inj accepts).symm, .inr (.inr rfl)⟩
  | deleted => cases accepts
  | detached => cases accepts

theorem apart_accepted {first second kept other : EntityEntry ω}
    (apart : EntityEntry.Apart first.label second.label)
    (accepts : first.accepted = some kept) (acceptsOther : second.accepted = some other) :
    EntityEntry.Apart kept.label other.label := by
  obtain ⟨rfl, remains⟩ := eq_of_accepted accepts
  obtain ⟨rfl, otherRemains⟩ := eq_of_accepted acceptsOther
  intro key firstKey secondKey
  rcases apart key firstKey secondKey with ⟨deleted, -⟩ | ⟨-, deleted⟩
  · rw [show first.state = .deleted from deleted] at remains
    simp at remains
  · rw [show second.state = .deleted from deleted] at otherRemains
    simp at otherRemains

def acceptAllChanges (tracker : ChangeTracker ω) : ChangeTracker ω where
  entries := tracker.entries.filterMap EntityEntry.accepted
  apart := by
    refine List.pairwise_map.mpr
      ((List.pairwise_map.mp tracker.apart).filterMap _ ?_)
    intro first second apart kept accepts other acceptsOther
    exact apart_accepted apart accepts acceptsOther

/-- What the application does to the tracked entities before it saves. -/
inductive Tracks (db : Db) : ChangeTracker ω → ChangeTracker ω → Prop
  | add {before after : ChangeTracker ω} {entity : Entity ω}
      (adds : after.entries = before.entries ++ [⟨entity, .added⟩]) : Tracks db before after
  | modify {before after : ChangeTracker ω} {front back : List (EntityEntry ω)}
      {entry : EntityEntry ω} {changed : Entity ω}
      (tracked : before.entries = front ++ entry :: back)
      (sameKey : changed.key? = entry.key?)
      (keepsCreatedAt : entry.state ≠ .added → changed.createdAt? = entry.entity.createdAt?)
      (changes : after.entries = front ++ ⟨changed, entry.state.modify⟩ :: back) :
      Tracks db before after
  | remove {before after : ChangeTracker ω} {front back : List (EntityEntry ω)}
      {entry : EntityEntry ω} (tracked : before.entries = front ++ entry :: back)
      (removes : after.entries = front ++ entry.remove.toList ++ back) :
      Tracks db before after
  | query {before after : ChangeTracker ω} {entity : Entity ω} (stored : db.Holds entity)
      (tracks : after.entries = before.entries ++ [⟨entity, .unchanged⟩]) :
      Tracks db before after
  /-- Another context takes over.  It has not assigned any `CreatedAt` either. -/
  | switch {before after : ChangeTracker ω}
      (inSync : after.InSync db) : Tracks db before after

end ChangeTracker

inductive SaveMethod where
  | saveChanges
  | saveChangesAsync

def SaveMethod.call (method : SaveMethod) (order : CommandOrder ω)
    (utcNow : Nat → DateTime) (entries : List (EntityEntry ω)) :
    DbTask (List (EntityEntry ω)) :=
  match method with
  | .saveChanges => AppDbContext.saveChanges order utcNow entries
  | .saveChangesAsync => AppDbContext.saveChangesAsync order utcNow entries

/-- A save: the entries it was called on, the readings that its stamping took, from
`start` up to `finish`, and whether the database took the changes. -/
structure SaveRecord (ω : Type) where
  entries : List (EntityEntry ω)
  start : Nat
  finish : Nat
  saved : Bool

structure Session (ω : Type) where
  tracker : ChangeTracker ω
  db : Db
  readings : Nat

namespace Session

def fresh (collation : Utf16 → Utf16) : Session ω where
  tracker := ⟨[], .nil⟩
  db := ⟨collation, .empty, .empty⟩
  readings := 0

variable (clock : Clock) (method : SaveMethod) (order : CommandOrder ω)
  (session : Session ω)

def utcNow (reading : Nat) : DateTime := clock.utcNow (session.readings + reading)

def finish : Nat := session.readings + auditReadings session.tracker.entries

def stamped : ChangeTracker ω :=
  session.tracker.setTimeAuditedColumns (session.utcNow clock)

def outcome : Except Exception (List (EntityEntry ω)) × Db :=
  (method.call order (session.utcNow clock) session.tracker.entries).run.run session.db

/-- The tracked objects keep their stamps also when the database refuses them. -/
def save : Session ω where
  tracker :=
    match (session.outcome clock method order).1 with
    | .ok _ => (session.stamped clock).acceptAllChanges
    | .error _ => session.stamped clock
  db := (session.outcome clock method order).2
  readings := session.finish

def record : SaveRecord ω where
  entries := session.tracker.entries
  start := session.readings
  finish := session.finish
  saved := (session.outcome clock method order).1.isOk

variable {clock method order session}

theorem outcome_eq :
    session.outcome clock method order =
      DbTask.commit ((saveAll order (session.stamped clock).entries session.db).map
        fun next => ((session.stamped clock).entries, next)) session.db := by
  have attempt : (do
      let next ← saveAll order (session.stamped clock).entries session.db
      return ((session.stamped clock).entries, next)) =
      (saveAll order (session.stamped clock).entries session.db).map
        fun next => ((session.stamped clock).entries, next) := by
    cases saveAll order (session.stamped clock).entries session.db <;> rfl
  rw [← attempt]
  cases method with
  | saveChanges => exact Program.run_atomically _ _
  | saveChangesAsync => exact Program.run_atomically _ _

/-- What a save does, by either method. -/
theorem save_cases :
    (∃ next, saveAll order (session.stamped clock).entries session.db = .ok next ∧
      (session.record clock method order).saved = true ∧
      session.save clock method order =
        ⟨(session.stamped clock).acceptAllChanges, next, session.finish⟩) ∨
    ((session.record clock method order).saved = false ∧
      session.save clock method order =
        ⟨session.stamped clock, session.db, session.finish⟩) := by
  have outcome := @outcome_eq _ clock method order session
  cases saved : saveAll order (session.stamped clock).entries session.db with
  | ok next =>
      rw [saved] at outcome
      refine .inl ⟨next, rfl, ?_, ?_⟩
      · rw [record, outcome]
        rfl
      · rw [save, outcome]
        rfl
  | error exception =>
      rw [saved] at outcome
      refine .inr ⟨?_, ?_⟩
      · rw [record, outcome]
        rfl
      · rw [save, outcome]
        rfl

end Session

inductive Step (clock : Clock) : Session ω → List (SaveRecord ω) → Session ω → Prop
  | track {session : Session ω} {tracker : ChangeTracker ω}
      (tracks : ChangeTracker.Tracks session.db session.tracker tracker) :
      Step clock session [] { session with tracker }
  | wait {session : Session ω} {readings : Nat} (later : session.readings ≤ readings) :
      Step clock session [] { session with readings }
  /-- The commands may be sent in any order, another one for each save. -/
  | save {session : Session ω} (method : SaveMethod) (order : CommandOrder ω) :
      Step clock session [session.record clock method order]
        (session.save clock method order)

/-- Any number of steps, with the saves that they make. -/
inductive Runs (clock : Clock) : Session ω → List (SaveRecord ω) → Session ω → Prop
  | refl {session : Session ω} : Runs clock session [] session
  | step {start session next : Session ω} {log events : List (SaveRecord ω)}
      (runs : Runs clock start log session) (step : Step clock session events next) :
      Runs clock start (log ++ events) next

end SecretServer.Database
