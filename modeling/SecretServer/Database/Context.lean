import Mathlib.Data.List.Sort
import SecretServer.Concurrency.Program
import SecretServer.Database.Entities

namespace SecretServer.Database

open Concurrency

/-! An asynchronous method runs on a context of its own and touches the database
one statement at a time. -/

abbrev DbTask (α : Type) := ExceptT Exception (Program Db) α

namespace DbTask

variable {α β : Type}

def ofExcept (result : Except Exception α) : DbTask α := ExceptT.mk (.done result)

def query (read : Db → α) : DbTask α :=
  ExceptT.mk (Program.atomically fun db => (.ok (read db), db))

/-- The outcome of a statement, which leaves no trace when it is refused. -/
def commit (attempt : Except Exception (α × Db)) (db : Db) :
    Except Exception α × Db :=
  match attempt with
  | .ok (result, next) => (.ok result, next)
  | .error exception => (.error exception, db)

def statement (attempt : Db → Except Exception (α × Db)) : DbTask α :=
  ExceptT.mk (Program.atomically fun db => commit (attempt db) db)

@[simp] theorem ofExcept_ok_bind (result : α) (rest : α → DbTask β) :
    (ofExcept (.ok result) >>= rest) = rest result := rfl

@[simp] theorem ofExcept_error_bind (exception : Exception) (rest : α → DbTask β) :
    (ofExcept (.error exception) >>= rest) = ofExcept (.error exception) := rfl

theorem run_bind_run (task : DbTask α) (rest : α → DbTask β) (db : Db) :
    (task >>= rest).run.run db =
      match task.run.run db with
      | (.ok result, next) => (rest result).run.run next
      | (.error exception, next) => (.error exception, next) := by
  rw [ExceptT.run_bind, Program.run_bind]
  generalize task.run.run db = ran
  obtain ⟨outcome, next⟩ := ran
  cases outcome <;> rfl

theorem run_map_run (change : α → β) (task : DbTask α) (db : Db) :
    (change <$> task).run.run db =
      ((task.run.run db).1.map change, (task.run.run db).2) := by
  rw [map_eq_pure_bind, run_bind_run]
  generalize task.run.run db = ran
  obtain ⟨outcome, next⟩ := ran
  cases outcome <;> rfl

theorem statement_bind_pure (attempt : Db → Except Exception (α × Db))
    (finish : α → β) :
    (statement attempt >>= fun result => pure (finish result)) =
      statement fun db => (attempt db).map fun (result, next) =>
        (finish result, next) := by
  change Program.access _ _ = Program.access _ _
  congr 1
  · funext db
    dsimp only
    cases attempt db <;> rfl
  · funext db
    dsimp only
    cases attempt db <;> rfl

end DbTask

/-! The change tracker, and the audit columns that are set before saving. -/

inductive EntityState where
  | detached
  | unchanged
  | deleted
  | modified
  | added
  deriving DecidableEq, Repr

/-- A tracked entity.  Those of `ω` do not implement `ITimestampedEntity`. -/
inductive Entity (ω : Type) where
  | secret (row : Secret)
  | user (row : User)
  | other (payload : ω)
  deriving DecidableEq

structure EntityEntry (ω : Type) where
  entity : Entity ω
  state : EntityState
  deriving DecidableEq

variable {ω : Type}

namespace Entity

def isTimestamped : Entity ω → Bool
  | .secret _ => true
  | .user _ => true
  | .other _ => false

def setCreatedAt (time : DateTime) : Entity ω → Entity ω
  | .secret row => .secret { row with createdAt := time }
  | .user row => .user { row with createdAt := time }
  | .other payload => .other payload

def setUpdatedAt (time : DateTime) : Entity ω → Entity ω
  | .secret row => .secret { row with updatedAt := time }
  | .user row => .user { row with updatedAt := time }
  | .other payload => .other payload

end Entity

inductive RowKey where
  | secret (id : Guid)
  | user (id : Guid)
  deriving DecidableEq

def Entity.key? : Entity ω → Option RowKey
  | .secret row => some (.secret row.id)
  | .user row => some (.user row.id)
  | .other _ => none

namespace EntityEntry

def key? (entry : EntityEntry ω) : Option RowKey := entry.entity.key?

/-- An entity of the same row is tracked in the given state. -/
def sharesRow (entries : List (EntityEntry ω)) (state : EntityState)
    (entry : EntityEntry ω) : Bool :=
  entry.key?.isSome && entries.any fun other =>
    other.state == state && other.key? == entry.key?

/-- The command that a save sends for an entry.  An added entity that takes the place of
a deleted one is written over its row. -/
def command? (entries : List (EntityEntry ω)) (entry : EntityEntry ω) :
    Option (EntityEntry ω) :=
  match entry.state with
  | .added =>
      if entry.sharesRow entries .deleted then some { entry with state := .modified }
      else some entry
  | .modified => some entry
  | .deleted => if entry.sharesRow entries .added then none else some entry
  | .unchanged => none
  | .detached => none

end EntityEntry

/-- The order in which Entity Framework sends the commands of a save.  It follows the
foreign keys and the unique values, so there may be none. -/
structure CommandOrder (ω : Type) where
  arrange : List (EntityEntry ω) → Except Exception (List (EntityEntry ω))
  perm : ∀ commands arranged, arrange commands = .ok arranged → arranged.Perm commands
  single : ∀ command, arrange [command] = .ok [command]

namespace CommandOrder

def rank (command : EntityEntry ω) : Nat :=
  match command.entity, command.state with
  | .secret _, .deleted => 0
  | .secret _, _ => 2
  | .user _, .deleted => 3
  | _, _ => 1

/-- Users are saved before secrets that may refer to them, and deleted after them. -/
def principalsFirst : CommandOrder ω where
  arrange commands :=
    .ok (commands.insertionSort fun first second => rank first ≤ rank second)
  perm := by
    intro commands arranged same
    cases same
    exact List.perm_insertionSort _ commands
  single _ := rfl

end CommandOrder

namespace AppDbContext

/-- A `foreach` over the tracked entries that pass a filter.  Each of them takes a
clock reading of its own; the number of readings so far is passed on. -/
def stampEach (selected : EntityEntry ω → Bool)
    (assign : DateTime → Entity ω → Entity ω) (utcNow : Nat → DateTime) :
    Nat → List (EntityEntry ω) → List (EntityEntry ω) × Nat
  | readings, [] => ([], readings)
  | readings, entry :: rest =>
      if selected entry then
        let stamped := stampEach selected assign utcNow (readings + 1) rest
        (⟨assign (utcNow readings) entry.entity, entry.state⟩ :: stamped.1, stamped.2)
      else
        let stamped := stampEach selected assign utcNow readings rest
        (entry :: stamped.1, stamped.2)

def isCreated (entry : EntityEntry ω) : Bool :=
  entry.entity.isTimestamped && entry.state == .added

def isModified (entry : EntityEntry ω) : Bool :=
  entry.entity.isTimestamped && (entry.state == .added || entry.state == .modified)

/-- `SetTimeAuditedColumns`.  `utcNow` lists the readings of `DateTime.UtcNow` in
the order in which they are made. -/
def setTimeAuditedColumns (utcNow : Nat → DateTime)
    (entries : List (EntityEntry ω)) : List (EntityEntry ω) :=
  let created := stampEach isCreated Entity.setCreatedAt utcNow 0 entries
  (stampEach isModified Entity.setUpdatedAt utcNow created.2 created.1).1

def saveEntry (db : Db) (entry : EntityEntry ω) : Except Exception Db :=
  match entry.state, entry.entity with
  | .added, .secret secret => db.insertSecret secret
  | .added, .user user => db.insertUser user
  | .modified, .secret secret => db.updateSecret secret
  | .modified, .user user => db.updateUser user
  | .deleted, .secret secret => db.deleteSecret secret.id
  | .deleted, .user user => db.deleteUser user.id
  | _, _ => .ok db

def modificationCommands (entries : List (EntityEntry ω)) : List (EntityEntry ω) :=
  entries.filterMap (EntityEntry.command? entries)

def saveAll (order : CommandOrder ω) (entries : List (EntityEntry ω)) (db : Db) :
    Except Exception Db := do
  let commands ← order.arrange (modificationCommands entries)
  commands.foldlM saveEntry db

/-- `SaveChanges`.  The tracked objects are stamped in place, so the caller sees
the stamped entries. -/
def saveChanges (order : CommandOrder ω) (utcNow : Nat → DateTime)
    (entries : List (EntityEntry ω)) : DbTask (List (EntityEntry ω)) :=
  DbTask.statement fun db => do
    let next ← saveAll order (setTimeAuditedColumns utcNow entries) db
    return (setTimeAuditedColumns utcNow entries, next)

/-- `SaveChangesAsync`, which stamps before it calls the base method as well. -/
def saveChangesAsync (order : CommandOrder ω) (utcNow : Nat → DateTime)
    (entries : List (EntityEntry ω)) : DbTask (List (EntityEntry ω)) :=
  DbTask.statement fun db => do
    let next ← saveAll order (setTimeAuditedColumns utcNow entries) db
    return (setTimeAuditedColumns utcNow entries, next)

end AppDbContext

def Secret.stamped (utcNow : Nat → DateTime) (secret : Secret) : Secret :=
  { secret with createdAt := utcNow 0, updatedAt := utcNow 1 }

def User.stamped (utcNow : Nat → DateTime) (user : User) : User :=
  { user with createdAt := utcNow 0, updatedAt := utcNow 1 }

namespace AppDbContext

theorem setTimeAuditedColumns_added_secret (utcNow : Nat → DateTime)
    (secret : Secret) :
    setTimeAuditedColumns utcNow [(⟨.secret secret, .added⟩ : EntityEntry ω)] =
      [⟨.secret (secret.stamped utcNow), .added⟩] := rfl

theorem setTimeAuditedColumns_added_user (utcNow : Nat → DateTime) (user : User) :
    setTimeAuditedColumns utcNow [(⟨.user user, .added⟩ : EntityEntry ω)] =
      [⟨.user (user.stamped utcNow), .added⟩] := rfl

theorem setTimeAuditedColumns_deleted_secret (utcNow : Nat → DateTime)
    (secret : Secret) :
    setTimeAuditedColumns utcNow [(⟨.secret secret, .deleted⟩ : EntityEntry ω)] =
      [⟨.secret secret, .deleted⟩] := rfl

/-- One command is sent as it is, whatever the order. -/
theorem saveAll_singleton (order : CommandOrder ω) {entry : EntityEntry ω}
    (sends : modificationCommands [entry] = [entry]) (db : Db) :
    saveAll order [entry] db = saveEntry db entry := by
  rw [saveAll, sends, order.single]
  change (saveEntry db entry >>= fun next => pure next) = saveEntry db entry
  cases saveEntry db entry <;> rfl

end AppDbContext

/-- Adding a secret writes over whatever audit times it came with. -/
theorem Secret.stamped_preset (utcNow : Nat → DateTime) (secret : Secret)
    (createdAt updatedAt : DateTime) :
    ({ secret with createdAt := createdAt, updatedAt := updatedAt } : Secret).stamped
      utcNow = secret.stamped utcNow := rfl

end SecretServer.Database
