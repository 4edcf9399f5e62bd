import SecretServer.Database.Context

namespace SecretServer.DataLayer

open Text Concurrency Database

namespace SecretRepository

/-- The audit columns of the tracked object after it was saved. -/
def trackedSecret (entries : List (EntityEntry Empty)) (secret : Secret) : Secret :=
  match entries with
  | [⟨.secret saved, _⟩] => saved
  | _ => secret

/-- `FindAsync` on a context that tracks nothing yet. -/
def tryGetByGuidAsync (uid : Guid) : DbTask (Option Secret) :=
  if uid = Guid.empty then
    DbTask.ofExcept (.error (.argument ⟨"The provided GUID is empty.", []⟩ (some "uid")))
  else
    DbTask.query fun db => db.secrets.find? uid

def getAllCreatedByUserAsync (userId : Guid) : DbTask (List Secret) :=
  if userId = Guid.empty then
    DbTask.ofExcept
      (.error (.argument ⟨"The provided user ID is empty.", []⟩ (some "userId")))
  else
    DbTask.query fun db => db.secrets.rows.filter fun secret => secret.userId = some userId

/-- The save sends one command, for which all orders are the same. -/
def createAsync (utcNow : Nat → DateTime) (secret : Secret) : DbTask Secret := do
  let entries ←
    AppDbContext.saveChangesAsync .principalsFirst utcNow [⟨.secret secret, .added⟩]
  return trackedSecret entries secret

def deleteAsync (utcNow : Nat → DateTime) (secret : Secret) : DbTask Secret := do
  let entries ←
    AppDbContext.saveChangesAsync .principalsFirst utcNow [⟨.secret secret, .deleted⟩]
  return trackedSecret entries secret

theorem createAsync_eq (utcNow : Nat → DateTime) (secret : Secret) :
    createAsync utcNow secret = DbTask.statement fun db =>
      (db.insertSecret (secret.stamped utcNow)).map fun next =>
        (secret.stamped utcNow, next) := by
  rw [createAsync, AppDbContext.saveChangesAsync, DbTask.statement_bind_pure,
    AppDbContext.setTimeAuditedColumns_added_secret]
  congr 1
  funext db
  rw [AppDbContext.saveAll_singleton _ rfl]
  change Except.map _ (db.insertSecret (secret.stamped utcNow) >>= _) = _
  cases db.insertSecret (secret.stamped utcNow) <;> rfl

theorem deleteAsync_eq (utcNow : Nat → DateTime) (secret : Secret) :
    deleteAsync utcNow secret = DbTask.statement fun db =>
      (db.deleteSecret secret.id).map fun next => (secret, next) := by
  rw [deleteAsync, AppDbContext.saveChangesAsync, DbTask.statement_bind_pure,
    AppDbContext.setTimeAuditedColumns_deleted_secret]
  congr 1
  funext db
  rw [AppDbContext.saveAll_singleton _ rfl]
  change Except.map _ (db.deleteSecret secret.id >>= _) = _
  cases db.deleteSecret secret.id <;> rfl

end SecretRepository

namespace UserRepository

def trackedUser (entries : List (EntityEntry Empty)) (user : User) : User :=
  match entries with
  | [⟨.user saved, _⟩] => saved
  | _ => user

def tryFindByAuthProviderIdAsync (authProviderId : Option Utf16) :
    DbTask (Option User) :=
  match authProviderId with
  | none => DbTask.ofExcept (.error blank)
  | some value =>
      if Utf16.isNullOrWhiteSpace (some value) then
        DbTask.ofExcept (.error blank)
      else
        DbTask.query fun db => db.findByAuthProviderId? value
where
  blank : Exception :=
    .argument ⟨"Auth provider ID cannot be null or empty.", []⟩ (some "authProviderId")

def createAsync (utcNow : Nat → DateTime) (user : User) : DbTask User := do
  let entries ←
    AppDbContext.saveChangesAsync .principalsFirst utcNow [⟨.user user, .added⟩]
  return trackedUser entries user

theorem createAsync_eq (utcNow : Nat → DateTime) (user : User) :
    createAsync utcNow user = DbTask.statement fun db =>
      (db.insertUser (user.stamped utcNow)).map fun next =>
        (user.stamped utcNow, next) := by
  rw [createAsync, AppDbContext.saveChangesAsync, DbTask.statement_bind_pure,
    AppDbContext.setTimeAuditedColumns_added_user]
  congr 1
  funext db
  rw [AppDbContext.saveAll_singleton _ rfl]
  change Except.map _ (db.insertUser (user.stamped utcNow) >>= _) = _
  cases db.insertUser (user.stamped utcNow) <;> rfl

end UserRepository

end SecretServer.DataLayer
