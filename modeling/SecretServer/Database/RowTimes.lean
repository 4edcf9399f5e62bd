import SecretServer.Data.Writes
import SecretServer.Database.Stamping

namespace SecretServer.Database

open Data

/-! The audit times that the rows hold, and what saving an entity writes to them. -/

/-- Both times in ticks, by which .NET compares two times. -/
structure AuditTimes where
  createdAt : Nat
  updatedAt : Nat
  deriving DecidableEq

def Secret.auditTimes (secret : Secret) : AuditTimes :=
  ⟨secret.createdAt.ticks, secret.updatedAt.ticks⟩

def User.auditTimes (user : User) : AuditTimes :=
  ⟨user.createdAt.ticks, user.updatedAt.ticks⟩

variable {ω : Type}

namespace Entity

def row? : Entity ω → Option (RowKey × AuditTimes)
  | .secret row => some (.secret row.id, row.auditTimes)
  | .user row => some (.user row.id, row.auditTimes)
  | .other _ => none

theorem key?_eq (entity : Entity ω) : entity.key? = entity.row?.map (·.1) := by
  cases entity <;> rfl

theorem key?_of_row? {entity : Entity ω} {key : RowKey} {times : AuditTimes}
    (row : entity.row? = some (key, times)) : entity.key? = some key := by
  rw [key?_eq, row]
  rfl

theorem row?_setCreatedAt (entity : Entity ω) (time : DateTime) :
    (entity.setCreatedAt time).row? =
      entity.row?.map fun (key, times) => (key, { times with createdAt := time.ticks }) := by
  cases entity <;> rfl

theorem row?_setUpdatedAt (entity : Entity ω) (time : DateTime) :
    (entity.setUpdatedAt time).row? =
      entity.row?.map fun (key, times) => (key, { times with updatedAt := time.ticks }) := by
  cases entity <;> rfl

@[simp] theorem key?_setCreatedAt (entity : Entity ω) (time : DateTime) :
    (entity.setCreatedAt time).key? = entity.key? := by
  cases entity <;> rfl

@[simp] theorem key?_setUpdatedAt (entity : Entity ω) (time : DateTime) :
    (entity.setUpdatedAt time).key? = entity.key? := by
  cases entity <;> rfl

end Entity

namespace EntityEntry

/-- What saving the entry does to the audit times of its row. -/
def write (entry : EntityEntry ω) : Write RowKey AuditTimes :=
  match entry.state, entry.entity.row? with
  | .added, some (key, times) => .insert key times
  | .modified, some (key, times) => .update key times
  | .deleted, some (key, _) => .delete key
  | _, _ => .skip

theorem write_eq_insert_iff {entry : EntityEntry ω} {key : RowKey} {times : AuditTimes} :
    entry.write = .insert key times ↔
      entry.state = .added ∧ entry.entity.row? = some (key, times) := by
  obtain ⟨entity, state⟩ := entry
  cases row : entity.row? <;> cases state <;> simp [write, row, Prod.ext_iff]

theorem write_eq_update_iff {entry : EntityEntry ω} {key : RowKey} {times : AuditTimes} :
    entry.write = .update key times ↔
      entry.state = .modified ∧ entry.entity.row? = some (key, times) := by
  obtain ⟨entity, state⟩ := entry
  cases row : entity.row? <;> cases state <;> simp [write, row, Prod.ext_iff]

theorem write_eq_delete_iff {entry : EntityEntry ω} {key : RowKey} :
    entry.write = .delete key ↔ entry.state = .deleted ∧ entry.key? = some key := by
  obtain ⟨entity, state⟩ := entry
  cases row : entity.row? <;> cases state <;> simp [write, row, key?, Entity.key?_eq]

/-- A write touches no row but that of its entry. -/
theorem key?_of_key?_write {entry : EntityEntry ω} {key : RowKey}
    (touched : entry.write.key? = some key) : entry.key? = some key := by
  obtain ⟨entity, state⟩ := entry
  cases row : entity.row? <;> cases state <;>
    simp_all [write, key?, Entity.key?_eq, Write.key?]

end EntityEntry

namespace Db

def auditTimes (db : Db) : RowKey → Option AuditTimes
  | .secret id => db.secrets.view Secret.auditTimes id
  | .user id => db.users.view User.auditTimes id

theorem auditTimes_withSecrets {db : Db} {secrets : Table Secret.id} {id : Guid}
    {times : Option AuditTimes}
    (changed : secrets.view Secret.auditTimes =
      Function.update (db.secrets.view Secret.auditTimes) id times) :
    (db.withSecrets secrets).auditTimes =
      Function.update db.auditTimes (.secret id) times := by
  funext key
  cases key with
  | secret other =>
      rw [Function.update_apply_of_injective _ (fun _ _ => RowKey.secret.inj)]
      exact congrFun changed other
  | user other =>
      rw [Function.update_of_ne (by simp)]
      rfl

theorem auditTimes_withUsers {db : Db} {users : Table User.id} {id : Guid}
    {times : Option AuditTimes}
    (changed : users.view User.auditTimes =
      Function.update (db.users.view User.auditTimes) id times) :
    (db.withUsers users).auditTimes =
      Function.update db.auditTimes (.user id) times := by
  funext key
  cases key with
  | user other =>
      rw [Function.update_apply_of_injective _ (fun _ _ => RowKey.user.inj)]
      exact congrFun changed other
  | secret other =>
      rw [Function.update_of_ne (by simp)]
      rfl

variable {db next : Db}

theorem insertSecret_applies {secret : Secret} (saved : db.insertSecret secret = .ok next) :
    (Write.insert (.secret secret.id) secret.auditTimes).Applies db.auditTimes
      next.auditTimes := by
  obtain ⟨-, -, absent, rfl⟩ := insertSecret_eq_ok_iff.mp saved
  rw [auditTimes_withSecrets (Table.view_insert _ secret.materialized absent)]
  exact .insert (congrArg (Option.map Secret.auditTimes) absent)

theorem insertUser_applies {user : User} (saved : db.insertUser user = .ok next) :
    (Write.insert (.user user.id) user.auditTimes).Applies db.auditTimes
      next.auditTimes := by
  obtain ⟨-, -, absent, rfl⟩ := insertUser_eq_ok_iff.mp saved
  rw [auditTimes_withUsers (Table.view_insert _ user.materialized absent)]
  exact .insert (congrArg (Option.map User.auditTimes) absent)

theorem updateSecret_applies {secret : Secret} (saved : db.updateSecret secret = .ok next) :
    (Write.update (.secret secret.id) secret.auditTimes).Applies db.auditTimes
      next.auditTimes := by
  unfold updateSecret at saved
  split at saved
  next present =>
    obtain ⟨old, found⟩ := Option.isSome_iff_exists.mp present
    split at saved
    · cases saved
    · split at saved
      · obtain rfl := Except.ok.inj saved
        rw [auditTimes_withSecrets (Table.view_update _ secret.materialized present)]
        exact .update (congrArg (Option.map Secret.auditTimes) found)
      · cases saved
  next => cases saved

theorem updateUser_applies {user : User} (saved : db.updateUser user = .ok next) :
    (Write.update (.user user.id) user.auditTimes).Applies db.auditTimes
      next.auditTimes := by
  unfold updateUser at saved
  split at saved
  next => cases saved
  next present =>
    have isSome : (db.users.find? user.id).isSome :=
      Option.isSome_iff_ne_none.mpr (by simpa using present)
    obtain ⟨old, found⟩ := Option.isSome_iff_exists.mp isSome
    split at saved
    · cases saved
    · split at saved
      · cases saved
      · obtain rfl := Except.ok.inj saved
        rw [auditTimes_withUsers (Table.view_update _ user.materialized isSome)]
        exact .update (congrArg (Option.map User.auditTimes) found)

theorem deleteSecret_applies {id : Guid} (saved : db.deleteSecret id = .ok next) :
    (Write.delete (.secret id)).Applies db.auditTimes next.auditTimes := by
  unfold deleteSecret at saved
  split at saved
  · obtain rfl := Except.ok.inj saved
    rw [auditTimes_withSecrets (Table.view_delete _ id)]
    exact .delete
  · cases saved

theorem deleteUser_applies {id : Guid} (saved : db.deleteUser id = .ok next) :
    (Write.delete (.user id)).Applies db.auditTimes next.auditTimes := by
  unfold deleteUser at saved
  split at saved
  · cases saved
  · split at saved
    · cases saved
    · obtain rfl := Except.ok.inj saved
      rw [auditTimes_withUsers (Table.view_delete _ id)]
      exact .delete

end Db

namespace AppDbContext

variable {db next : Db}

theorem saveEntry_applies {entry : EntityEntry ω} (saved : saveEntry db entry = .ok next) :
    entry.write.Applies db.auditTimes next.auditTimes := by
  obtain ⟨entity, state⟩ := entry
  cases state with
  | added =>
      cases entity with
      | secret row => exact Db.insertSecret_applies saved
      | user row => exact Db.insertUser_applies saved
      | other payload =>
          obtain rfl := Except.ok.inj saved
          exact .skip
  | modified =>
      cases entity with
      | secret row => exact Db.updateSecret_applies saved
      | user row => exact Db.updateUser_applies saved
      | other payload =>
          obtain rfl := Except.ok.inj saved
          exact .skip
  | deleted =>
      cases entity with
      | secret row => exact Db.deleteSecret_applies saved
      | user row => exact Db.deleteUser_applies saved
      | other payload =>
          obtain rfl := Except.ok.inj saved
          exact .skip
  | detached =>
      obtain rfl : db = next := by cases entity <;> exact Except.ok.inj saved
      cases entity <;> exact .skip
  | unchanged =>
      obtain rfl : db = next := by cases entity <;> exact Except.ok.inj saved
      cases entity <;> exact .skip

theorem foldlM_saveEntry_applies {commands : List (EntityEntry ω)}
    (saved : commands.foldlM saveEntry db = .ok next) :
    Write.AppliesAll (commands.map EntityEntry.write) db.auditTimes next.auditTimes := by
  induction commands generalizing db with
  | nil =>
      obtain rfl := Except.ok.inj saved
      exact .nil
  | cons command rest induction =>
      rw [List.foldlM_cons] at saved
      cases first : saveEntry db command with
      | error exception =>
          rw [first] at saved
          cases saved
      | ok between =>
          rw [first] at saved
          exact .cons (saveEntry_applies first) (induction saved)

theorem saveAll_eq_ok {order : CommandOrder ω} {entries : List (EntityEntry ω)}
    (saved : saveAll order entries db = .ok next) :
    ∃ commands : List (EntityEntry ω), commands.Perm (modificationCommands entries) ∧
      commands.foldlM saveEntry db = .ok next := by
  unfold saveAll at saved
  cases arranged : order.arrange (modificationCommands entries) with
  | error exception =>
      rw [arranged] at saved
      cases saved
  | ok commands =>
      rw [arranged] at saved
      exact ⟨commands, order.perm _ _ arranged, saved⟩

/-- In whatever order the commands are sent, each key has its fate from one of them. -/
theorem saveAll_fate {order : CommandOrder ω} {entries : List (EntityEntry ω)}
    (saved : saveAll order entries db = .ok next)
    (separate : ((modificationCommands entries).map EntityEntry.write).Pairwise
      Write.Separate) (key : RowKey) :
    Write.Fate ((modificationCommands entries).map EntityEntry.write) key
      (db.auditTimes key) (next.auditTimes key) := by
  obtain ⟨commands, perm, applied⟩ := saveAll_eq_ok saved
  have writes := perm.map EntityEntry.write
  have fate := (foldlM_saveEntry_applies applied).fate (Write.separate_perm writes separate) key
  exact fate.subset (fun _ => writes.mem_iff.mp) fun _ member _ => writes.mem_iff.mpr member

end AppDbContext

end SecretServer.Database
