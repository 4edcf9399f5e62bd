import SecretServer.Database.Entities
import SecretServer.Migrations.StoredSecrets
import SecretServer.Schema.Statements

namespace SecretServer.Migrations

open Text Schema Database

/-! The rows that the entities are stored as, and what the constraints of the migrated
tables say of them. -/

def secretRow (secret : Secret) : SqlRow
  | "Id" => some (.guid secret.id)
  | "Value" => some (.string secret.value)
  | "Ttl" => secret.ttl.map .string
  | "CreatedAt" => some (.dateTime secret.createdAt)
  | "UpdatedAt" => some (.dateTime secret.updatedAt)
  | "UserId" => secret.userId.map .guid
  | _ => none

def userRow (user : User) : SqlRow
  | "Id" => some (.guid user.id)
  | "AuthProviderId" => some (.string user.authProviderId)
  | "CreatedAt" => some (.dateTime user.createdAt)
  | "UpdatedAt" => some (.dateTime user.updatedAt)
  | _ => none

def secretsTable (secrets : List Secret) : Relation ColumnType SqlValue :=
  ownedSecretTable (secrets.map secretRow)

def usersTable (users : List User) : Relation ColumnType SqlValue :=
  userTable (users.map userRow)

def ownerKey : ForeignKey := ⟨"FK_Secret_User_UserId", "UserId", ⟨"users", "User"⟩, "Id"⟩

/-! What the rows have in each column. -/

@[simp] theorem secretRow_id (secret : Secret) :
    secretRow secret "Id" = some (.guid secret.id) := rfl

@[simp] theorem secretRow_userId (secret : Secret) :
    secretRow secret "UserId" = secret.userId.map .guid := rfl

@[simp] theorem userRow_id (user : User) : userRow user "Id" = some (.guid user.id) := rfl

@[simp] theorem userRow_authProviderId (user : User) :
    userRow user "AuthProviderId" = some (.string user.authProviderId) := rfl

theorem secretRow_injective : Function.Injective secretRow := by
  intro first second same
  have ids := congrFun same "Id"
  have values := congrFun same "Value"
  have ttls := congrFun same "Ttl"
  have createdAts := congrFun same "CreatedAt"
  have updatedAts := congrFun same "UpdatedAt"
  have userIds := congrFun same "UserId"
  obtain ⟨id, userId, value, ttl, createdAt, updatedAt⟩ := first
  obtain ⟨id', userId', value', ttl', createdAt', updatedAt'⟩ := second
  have injString : Function.Injective SqlValue.string := fun _ _ => SqlValue.string.inj
  have injGuid : Function.Injective SqlValue.guid := fun _ _ => SqlValue.guid.inj
  obtain rfl := SqlValue.guid.inj (Option.some.inj ids)
  obtain rfl := SqlValue.string.inj (Option.some.inj values)
  obtain rfl := Option.map_injective injString ttls
  obtain rfl := SqlValue.dateTime.inj (Option.some.inj createdAts)
  obtain rfl := SqlValue.dateTime.inj (Option.some.inj updatedAts)
  obtain rfl := Option.map_injective injGuid userIds
  rfl

theorem userRow_injective : Function.Injective userRow := by
  intro first second same
  have ids := congrFun same "Id"
  have authProviderIds := congrFun same "AuthProviderId"
  have createdAts := congrFun same "CreatedAt"
  have updatedAts := congrFun same "UpdatedAt"
  obtain ⟨id, authProviderId, createdAt, updatedAt⟩ := first
  obtain ⟨id', authProviderId', createdAt', updatedAt'⟩ := second
  obtain rfl := SqlValue.guid.inj (Option.some.inj ids)
  obtain rfl := SqlValue.string.inj (Option.some.inj authProviderIds)
  obtain rfl := SqlValue.dateTime.inj (Option.some.inj createdAts)
  obtain rfl := SqlValue.dateTime.inj (Option.some.inj updatedAts)
  rfl

section Constraints

variable {collation : Utf16 → Utf16} {secrets : List Secret} {users : List User}

theorem secretsTable_fits_iff :
    (secretsTable secrets).Fits (sqlServer collation) ↔
      ∀ secret ∈ secrets, secret.ttl ≠ none := by
  unfold Relation.Fits secretsTable ownedSecretTable secretColumns
  rw [List.forall_mem_map]
  apply forall₂_congr
  intro secret _
  obtain ⟨id, userId, value, ttl, createdAt, updatedAt⟩ := secret
  cases ttl <;> cases userId <;> simp [secretRow, sqlServer]

theorem usersTable_fits_iff :
    (usersTable users).Fits (sqlServer collation) ↔
      ∀ user ∈ users, user.authProviderId.length ≤ Db.authProviderIdWidth := by
  unfold Relation.Fits usersTable userTable
  rw [List.forall_mem_map]
  apply forall₂_congr
  intro user _
  simp [userRow, sqlServer, Db.authProviderIdWidth]

theorem columnValues_secretId :
    (sqlServer collation).columnValues "Id" (secrets.map secretRow) =
      secrets.map (SqlValue.guid ∘ Secret.id) := by
  unfold Dialect.columnValues
  rw [List.filterMap_map, ← List.filterMap_eq_map]
  rfl

theorem columnValues_userId :
    (sqlServer collation).columnValues "Id" (users.map userRow) =
      users.map (SqlValue.guid ∘ User.id) := by
  unfold Dialect.columnValues
  rw [List.filterMap_map, ← List.filterMap_eq_map]
  rfl

theorem columnValues_authProviderId :
    (sqlServer collation).columnValues "AuthProviderId" (users.map userRow) =
      users.map (SqlValue.string ∘ fun user => collation user.authProviderId) := by
  unfold Dialect.columnValues
  rw [List.filterMap_map, ← List.filterMap_eq_map]
  rfl

theorem secretsTable_keysUnique_iff :
    (secretsTable secrets).KeysUnique (sqlServer collation) ↔
      (secrets.map Secret.id).Nodup := by
  have columns : (secretsTable secrets).keyColumns = ["Id"] := rfl
  unfold Relation.KeysUnique
  rw [columns, List.forall_mem_singleton]
  change ((sqlServer collation).columnValues "Id" (secrets.map secretRow)).Nodup ↔ _
  rw [columnValues_secretId, ← List.map_map, List.nodup_map_iff fun _ _ => SqlValue.guid.inj]

theorem usersTable_keysUnique_iff :
    (usersTable users).KeysUnique (sqlServer collation) ↔
      (users.map User.id).Nodup ∧
        (users.map fun user => collation user.authProviderId).Nodup := by
  have columns : (usersTable users).keyColumns = ["Id", "AuthProviderId"] := rfl
  unfold Relation.KeysUnique
  rw [columns, List.forall_mem_cons, List.forall_mem_singleton]
  change ((sqlServer collation).columnValues "Id" (users.map userRow)).Nodup ∧
    ((sqlServer collation).columnValues "AuthProviderId" (users.map userRow)).Nodup ↔ _
  rw [columnValues_userId, columnValues_authProviderId, ← List.map_map, ← List.map_map,
    List.nodup_map_iff fun _ _ => SqlValue.guid.inj,
    List.nodup_map_iff fun _ _ => SqlValue.string.inj]

theorem resolves_iff {catalog : Catalog ColumnType SqlValue} {schemas : List String}
    (consists : catalog.Consists schemas [secretsTable secrets, usersTable users]) :
    catalog.resolves (sqlServer collation) (secretsTable secrets) ownerKey = true ↔
      ∀ secret ∈ secrets, ∀ id ∈ secret.userId, ∃ user ∈ users, user.id = id := by
  have found : catalog.tables.find? ownerKey.principal = some (usersTable users) :=
    consists.find? (List.mem_cons_of_mem _ List.mem_cons_self)
  have values : (sqlServer collation).columnValues "UserId" (secrets.map secretRow) =
      secrets.filterMap fun secret => secret.userId.map SqlValue.guid := by
    unfold Dialect.columnValues
    rw [List.filterMap_map]
    apply List.filterMap_congr
    intro secret _
    cases owner : secret.userId <;> simp [owner, sqlServer]
  have ids : (sqlServer collation).columnValues "Id" (usersTable users).rows =
      users.map (SqlValue.guid ∘ User.id) := columnValues_userId
  unfold Catalog.resolves
  rw [found]
  change (((sqlServer collation).columnValues "UserId" (secrets.map secretRow)).all fun value =>
    value ∈ (sqlServer collation).columnValues "Id" (usersTable users).rows) = true ↔ _
  rw [values, ids]
  simp only [List.all_eq_true, List.mem_filterMap, Option.map_eq_some_iff, List.mem_map,
    Function.comp_apply, decide_eq_true_eq, forall_exists_index, and_imp]
  constructor
  · intro resolves secret member id owner
    obtain ⟨user, userMember, same⟩ := resolves _ secret member id owner rfl
    exact ⟨user, userMember, SqlValue.guid.inj same⟩
  · intro known value secret member id owner same
    obtain ⟨user, userMember, named⟩ := known secret member id owner
    exact ⟨user, userMember, named ▸ same⟩

end Constraints

/-! The statements on single rows, row by row. -/

section Changes

variable {collation : Utf16 → Utf16} {secrets : List Secret} {users : List User}

theorem clip_secretRow (secret : Secret) :
    (secretsTable secrets).clip (secretRow secret) = secretRow secret := by
  apply Relation.clip_eq
  intro column outside
  have columns : (secretsTable secrets).columnNames =
      ["Id", "Value", "Ttl", "CreatedAt", "UpdatedAt", "UserId"] := rfl
  rw [columns] at outside
  unfold secretRow
  split <;> simp at outside ⊢

theorem clip_userRow (user : User) :
    (usersTable users).clip (userRow user) = userRow user := by
  apply Relation.clip_eq
  intro column outside
  have columns : (usersTable users).columnNames =
      ["Id", "AuthProviderId", "CreatedAt", "UpdatedAt"] := rfl
  rw [columns] at outside
  unfold userRow
  split <;> simp at outside ⊢

theorem keyed_secretRow (collation : Utf16 → Utf16) (secrets : List Secret) (id : Guid)
    (secret : Secret) :
    (secretsTable secrets).keyed (sqlServer collation) (.guid id) (secretRow secret) =
      decide (secret.id = id) := by
  have column : (secretsTable secrets).primaryKey.column = "Id" := rfl
  simp [Relation.keyed, column, sqlServer]

theorem keyed_userRow (collation : Utf16 → Utf16) (users : List User) (id : Guid)
    (user : User) :
    (usersTable users).keyed (sqlServer collation) (.guid id) (userRow user) =
      decide (user.id = id) := by
  have column : (usersTable users).primaryKey.column = "Id" := rfl
  simp [Relation.keyed, column, sqlServer]

theorem secretsTable_addRow (secret : Secret) :
    (secretsTable secrets).addRow (secretRow secret) = secretsTable (secrets ++ [secret]) := by
  rw [Relation.addRow_eq, clip_secretRow]
  unfold secretsTable ownedSecretTable
  rw [List.map_append, List.map_singleton]

theorem usersTable_addRow (user : User) :
    (usersTable users).addRow (userRow user) = usersTable (users ++ [user]) := by
  rw [Relation.addRow_eq, clip_userRow]
  unfold usersTable userTable
  rw [List.map_append, List.map_singleton]

theorem secretsTable_any_keyed (id : Guid) :
    (secretsTable secrets).rows.any
        ((secretsTable secrets).keyed (sqlServer collation) (.guid id)) = true ↔
      ∃ secret ∈ secrets, secret.id = id := by
  change (secrets.map secretRow).any _ = true ↔ _
  rw [List.any_map, List.any_eq_true]
  simp only [Function.comp_apply, keyed_secretRow, decide_eq_true_eq]

theorem usersTable_any_keyed (id : Guid) :
    (usersTable users).rows.any
        ((usersTable users).keyed (sqlServer collation) (.guid id)) = true ↔
      ∃ user ∈ users, user.id = id := by
  change (users.map userRow).any _ = true ↔ _
  rw [List.any_map, List.any_eq_true]
  simp only [Function.comp_apply, keyed_userRow, decide_eq_true_eq]

theorem secretsTable_setRow (secret : Secret) :
    (secretsTable secrets).setRow (sqlServer collation) (.guid secret.id)
        (secretRow secret) =
      secretsTable (secrets.map fun old => if old.id = secret.id then secret else old) := by
  unfold Relation.setRow
  rw [clip_secretRow]
  unfold secretsTable ownedSecretTable
  congr 1
  rw [List.map_map, List.map_map]
  apply List.map_congr_left
  intro old _
  have keyed := keyed_secretRow collation secrets secret.id old
  unfold secretsTable ownedSecretTable at keyed
  simp only [Function.comp_apply, keyed, decide_eq_true_eq, apply_ite secretRow]

theorem usersTable_setRow (user : User) :
    (usersTable users).setRow (sqlServer collation) (.guid user.id) (userRow user) =
      usersTable (users.map fun old => if old.id = user.id then user else old) := by
  unfold Relation.setRow
  rw [clip_userRow]
  unfold usersTable userTable
  congr 1
  rw [List.map_map, List.map_map]
  apply List.map_congr_left
  intro old _
  have keyed := keyed_userRow collation users user.id old
  unfold usersTable userTable at keyed
  simp only [Function.comp_apply, keyed, decide_eq_true_eq, apply_ite userRow]

theorem secretsTable_removeRow (id : Guid) :
    (secretsTable secrets).removeRow (sqlServer collation) (.guid id) =
      secretsTable (secrets.filter fun secret => secret.id ≠ id) := by
  unfold Relation.removeRow
  have keyed := keyed_secretRow collation secrets id
  unfold secretsTable ownedSecretTable at keyed ⊢
  congr 1
  rw [List.filter_map]
  congr 1
  apply List.filter_congr
  intro secret _
  simp [keyed]

theorem usersTable_removeRow (id : Guid) :
    (usersTable users).removeRow (sqlServer collation) (.guid id) =
      usersTable (users.filter fun user => user.id ≠ id) := by
  unfold Relation.removeRow
  have keyed := keyed_userRow collation users id
  unfold usersTable userTable at keyed ⊢
  congr 1
  rw [List.filter_map]
  congr 1
  apply List.filter_congr
  intro user _
  simp [keyed]

end Changes

end SecretServer.Migrations
