import SecretServer.Migrations.SavedChanges

namespace SecretServer.Migrations

open Text Data Schema Database

/-! Whatever rows the migrations meet on their way, the tables that they end in hold
entities. -/

section Rows

variable {collation : Utf16 → Utf16} {row : SqlRow}

def Shaped (value : SqlValue) : ColumnType → Prop
  | .uniqueidentifier => ∃ id, value = .guid id
  | .nvarcharMax => ∃ text, value = .string text
  | .nvarchar _ => ∃ text, value = .string text
  | .datetime2 => ∃ time, value = .dateTime time

theorem shaped_of_fits {type : ColumnType} {value : SqlValue}
    (fits : (sqlServer collation).fits type value = true) : Shaped value type := by
  cases type <;> cases value <;> first | exact ⟨_, rfl⟩ | cases fits

def Fills (collation : Utf16 → Utf16) (row : SqlRow) (columns : List (Column ColumnType)) :
    Prop :=
  ∀ column ∈ columns, (row column.name).elim column.nullable
    ((sqlServer collation).fits column.type) = true

theorem fills_of_addRow {relation : Relation ColumnType SqlValue}
    (fits : (relation.addRow row).Fits (sqlServer collation)) :
    Fills collation (relation.clip row) relation.columns := by
  have member : relation.clip row ∈ (relation.addRow row).rows := by
    rw [Relation.addRow_eq]
    simp
  intro column belongs
  have holds := fits _ member column belongs
  cases present : relation.clip row column.name with
  | none =>
      rw [present] at holds
      exact holds
  | some value =>
      rw [present] at holds
      exact holds

variable {columns : List (Column ColumnType)}

theorem Fills.required (fills : Fills collation row columns) (name : String)
    (type : ColumnType) (member : ⟨name, type, false⟩ ∈ columns) :
    ∃ value, row name = some value ∧ Shaped value type := by
  have fits := fills _ member
  dsimp only at fits
  cases present : row name with
  | none =>
      rw [present] at fits
      cases fits
  | some value =>
      rw [present] at fits
      exact ⟨value, rfl, shaped_of_fits fits⟩

theorem Fills.optionalGuid (fills : Fills collation row columns) (name : String)
    (member : ⟨name, .uniqueidentifier, true⟩ ∈ columns) :
    ∃ id : Option Guid, row name = id.map .guid := by
  have fits := fills _ member
  dsimp only at fits
  cases present : row name with
  | none => exact ⟨none, rfl⟩
  | some value =>
      rw [present] at fits
      obtain ⟨id, rfl⟩ := shaped_of_fits fits
      exact ⟨some id, rfl⟩

theorem exists_secret_of_fills (fills : Fills collation row secretColumns)
    (owner : ∃ userId : Option Guid, row "UserId" = userId.map .guid)
    (within : ∀ column, column ∉ (secretsTable []).columnNames → row column = none) :
    ∃ secret, secret.ttl ≠ none ∧ row = secretRow secret := by
  obtain ⟨_, hasId, id, rfl⟩ := fills.required "Id" .uniqueidentifier (by simp [secretColumns])
  obtain ⟨_, hasValue, value, rfl⟩ :=
    fills.required "Value" .nvarcharMax (by simp [secretColumns])
  obtain ⟨_, hasTtl, ttl, rfl⟩ := fills.required "Ttl" .nvarcharMax (by simp [secretColumns])
  obtain ⟨_, hasCreatedAt, createdAt, rfl⟩ :=
    fills.required "CreatedAt" .datetime2 (by simp [secretColumns])
  obtain ⟨_, hasUpdatedAt, updatedAt, rfl⟩ :=
    fills.required "UpdatedAt" .datetime2 (by simp [secretColumns])
  obtain ⟨userId, hasUserId⟩ := owner
  refine ⟨⟨id, userId, value, some ttl, createdAt, updatedAt⟩, Option.some_ne_none ttl, ?_⟩
  funext column
  unfold secretRow
  split
  · exact hasId
  · exact hasValue
  · exact hasTtl
  · exact hasCreatedAt
  · exact hasUpdatedAt
  · exact hasUserId
  · apply within
    have columns : (secretsTable []).columnNames =
        ["Id", "Value", "Ttl", "CreatedAt", "UpdatedAt", "UserId"] := rfl
    simp_all

theorem exists_user_of_fills (fills : Fills collation row (usersTable []).columns)
    (within : ∀ column, column ∉ (usersTable []).columnNames → row column = none) :
    ∃ user, row = userRow user := by
  obtain ⟨_, hasId, id, rfl⟩ :=
    fills.required "Id" .uniqueidentifier (by simp [usersTable, userTable])
  obtain ⟨_, hasLogin, authProviderId, rfl⟩ :=
    fills.required "AuthProviderId" (.nvarchar 450) (by simp [usersTable, userTable])
  obtain ⟨_, hasCreatedAt, createdAt, rfl⟩ :=
    fills.required "CreatedAt" .datetime2 (by simp [usersTable, userTable])
  obtain ⟨_, hasUpdatedAt, updatedAt, rfl⟩ :=
    fills.required "UpdatedAt" .datetime2 (by simp [usersTable, userTable])
  refine ⟨⟨id, authProviderId, createdAt, updatedAt⟩, ?_⟩
  funext column
  unfold userRow
  split
  · exact hasId
  · exact hasLogin
  · exact hasCreatedAt
  · exact hasUpdatedAt
  · apply within
    have columns : (usersTable []).columnNames =
        ["Id", "AuthProviderId", "CreatedAt", "UpdatedAt"] := rfl
    simp_all

theorem clip_outside {relation : Relation ColumnType SqlValue} (row : SqlRow) :
    ∀ column, column ∉ relation.columnNames → relation.clip row column = none := by
  intro column outside
  exact if_neg outside

end Rows

section Inserts

variable {collation : Utf16 → Utf16} {catalog : Catalog ColumnType SqlValue} {db : Db}

theorem Stores.insertSecretRow (stores : Stores collation catalog db) (row : SqlRow) :
    ∃ next, Stores collation ((catalog.insertRow (sqlServer collation)
      (secretsTable db.secrets.rows).name row).getD catalog) next := by
  obtain ⟨schemas, consists⟩ := stores.consists
  have split : catalog.Consists schemas
      ([] ++ secretsTable db.secrets.rows :: [usersTable db.users.rows]) := consists
  by_cases fits : ((secretsTable db.secrets.rows).addRow row).Fits (sqlServer collation)
  · have fills := fills_of_addRow fits
    obtain ⟨secret, -, same⟩ := exists_secret_of_fills
      (fun column belongs => fills column (List.mem_append_left _ belongs))
      (fills.optionalGuid "UserId" (by simp [secretsTable, ownedSecretTable]))
      (clip_outside row)
    rw [← split.insertRow_clip, same, insertRow_secrets consists]
    split_ifs with admits
    · obtain ⟨-, absent, -⟩ := stores.admits_insertSecret_iff.mp admits
      have stored : catalog.Admits (sqlServer collation)
          (secretsTable (db.secrets.insert secret absent).rows) := admits
      exact ⟨_, stores.withSecrets stored⟩
    · exact ⟨db, stores⟩
  · rw [split.insertRow_eq_none fits]
    exact ⟨db, stores⟩

theorem Stores.insertUserRow (stores : Stores collation catalog db) (row : SqlRow) :
    ∃ next, Stores collation ((catalog.insertRow (sqlServer collation)
      (usersTable db.users.rows).name row).getD catalog) next := by
  obtain ⟨schemas, consists⟩ := stores.consists
  have split : catalog.Consists schemas
      ([secretsTable db.secrets.rows] ++ usersTable db.users.rows :: []) := consists
  by_cases fits : ((usersTable db.users.rows).addRow row).Fits (sqlServer collation)
  · have fills := fills_of_addRow fits
    obtain ⟨user, same⟩ := exists_user_of_fills fills (clip_outside row)
    rw [← split.insertRow_clip, same, insertRow_users consists stores.owners]
    split_ifs with admits
    · obtain ⟨-, absent, -⟩ := stores.admits_insertUser_iff.mp admits
      have stored : catalog.Admits (sqlServer collation)
          (usersTable (db.users.insert user absent).rows) := admits
      exact ⟨_, stores.withUsers stored⟩
    · exact ⟨db, stores⟩
  · rw [split.insertRow_eq_none fits]
    exact ⟨db, stores⟩

theorem Stores.insertRow (stores : Stores collation catalog db) (table : TableName)
    (row : SqlRow) :
    ∃ next, Stores collation
      ((catalog.insertRow (sqlServer collation) table row).getD catalog) next := by
  by_cases inSecrets : table = (secretsTable db.secrets.rows).name
  · rw [inSecrets]
    exact stores.insertSecretRow row
  by_cases inUsers : table = (usersTable db.users.rows).name
  · rw [inUsers]
    exact stores.insertUserRow row
  obtain ⟨schemas, consists⟩ := stores.consists
  rw [consists.insertRow_of_absent (by simp [inSecrets, inUsers])]
  exact ⟨db, stores⟩

/-- Secrets before the migration that gives them owners. -/
structure StoresUnowned (catalog : Catalog ColumnType SqlValue)
    (secrets : Table Secret.id) : Prop where
  labelled : ∀ secret ∈ secrets.rows, secret.ttl ≠ none
  unowned : ∀ secret ∈ secrets.rows, secret.userId = none
  consists : ∃ schemas, catalog.Consists schemas [secretTable (secrets.rows.map secretRow)]

theorem secretTable_addRow {secrets : List Secret} {row : SqlRow}
    (fits : ((secretTable (secrets.map secretRow)).addRow row).Fits (sqlServer collation)) :
    ∃ secret, secret.ttl ≠ none ∧ secret.userId = none ∧
      (secretTable (secrets.map secretRow)).addRow row =
        secretTable ((secrets ++ [secret]).map secretRow) := by
  have fills := fills_of_addRow fits
  have outside := @clip_outside (secretTable (secrets.map secretRow)) row
  have columns : (secretTable (secrets.map secretRow)).columnNames =
      ["Id", "Value", "Ttl", "CreatedAt", "UpdatedAt"] := rfl
  have ownerless : (secretTable (secrets.map secretRow)).clip row "UserId" = none := by
    apply outside
    simp [columns]
  have within : ∀ column, column ∉ (secretsTable []).columnNames →
      (secretTable (secrets.map secretRow)).clip row column = none := by
    intro column far
    apply outside
    intro near
    exact far (List.mem_append_left ["UserId"] near)
  obtain ⟨secret, labelled, same⟩ :=
    exists_secret_of_fills fills ⟨none, ownerless⟩ within
  refine ⟨secret, labelled, ?_, ?_⟩
  · rw [same] at ownerless
    exact Option.map_eq_none_iff.mp ownerless
  · rw [Relation.addRow_eq, same]
    unfold secretTable
    rw [List.map_append, List.map_singleton]

theorem secretTable_keysUnique_iff {secrets : List Secret} :
    (secretTable (secrets.map secretRow)).KeysUnique (sqlServer collation) ↔
      (secrets.map Secret.id).Nodup := secretsTable_keysUnique_iff

theorem StoresUnowned.insertRow {secrets : Table Secret.id}
    (stores : StoresUnowned catalog secrets) (collation : Utf16 → Utf16) (table : TableName)
    (row : SqlRow) :
    ∃ next, StoresUnowned
      ((catalog.insertRow (sqlServer collation) table row).getD catalog) next := by
  obtain ⟨schemas, consists⟩ := stores.consists
  by_cases inSecrets : table = (secretTable (secrets.rows.map secretRow)).name
  · have split : catalog.Consists schemas
        ([] ++ secretTable (secrets.rows.map secretRow) :: []) := consists
    rw [inSecrets, split.insertRow_eq]
    split_ifs with guard
    · obtain ⟨fits, unique, -⟩ := guard
      obtain ⟨secret, labelled, unowned, added⟩ := secretTable_addRow fits
      rw [added] at unique ⊢
      have absent := Table.nodup_concat_iff.mp (secretTable_keysUnique_iff.mp unique)
      refine ⟨secrets.insert secret absent, ?_, ?_, schemas, split.put rfl⟩
      · exact (forall_mem_concat_iff stores.labelled).mpr labelled
      · exact (forall_mem_concat_iff stores.unowned).mpr unowned
    · exact ⟨secrets, stores⟩
  · rw [consists.insertRow_of_absent (by simp [inSecrets])]
    exact ⟨secrets, stores⟩

end Inserts

/-! Along the chain. -/

deriving instance DecidableEq for Column

theorem reordered_reverted : revertedColumns.Perm secretColumns := by decide

inductive EntityStage (collation : Utf16 → Utf16) : Migrated ColumnType SqlValue → Prop
  | fresh {catalog} (consists : catalog.Consists [] []) : EntityStage collation ⟨0, catalog⟩
  | password {catalog schemas columns rows} (reordered : columns.Perm secretColumns)
      (consists : catalog.Consists schemas [passwordTable columns rows]) :
      EntityStage collation ⟨1, catalog⟩
  | secret {catalog secrets} (stores : StoresUnowned catalog secrets) :
      EntityStage collation ⟨2, catalog⟩
  | owned {catalog db} (stores : Stores collation catalog db) :
      EntityStage collation ⟨3, catalog⟩

def disowned (secret : Secret) : Secret := { secret with userId := none }

theorem update_secretRow (secret : Secret) :
    Function.update (secretRow secret) "UserId" none = secretRow (disowned secret) := by
  funext column
  by_cases owner : column = "UserId"
  · rw [owner, Function.update_self]
    rfl
  · rw [Function.update_of_ne owner]
    unfold secretRow
    split <;> first | rfl | exact absurd rfl owner

theorem map_update_secretRow (secrets : List Secret) :
    ((secrets.map secretRow).map fun row => Function.update row "UserId" none) =
      (secrets.map disowned).map secretRow := by
  rw [List.map_map, List.map_map]
  apply List.map_congr_left
  intro secret _
  exact update_secretRow secret

section Stages

variable {collation : Utf16 → Utf16} {before : Migrated ColumnType SqlValue}
  {catalog : Catalog ColumnType SqlValue}

theorem StoresUnowned.owned {secrets : Table Secret.id} (stores : StoresUnowned catalog secrets)
    {next : Catalog ColumnType SqlValue} {schemas : List String}
    (reached : next.Consists schemas
      [ownedSecretTable ((secrets.rows.map secretRow).map fun row =>
          Function.update row "UserId" none),
        userTable []]) :
    Stores collation next ⟨collation, .empty, secrets⟩ := by
  have same : secrets.rows.map disowned = secrets.rows := by
    refine (List.map_congr_left ?_).trans (List.map_id _)
    intro secret member
    unfold disowned
    rw [← stores.unowned secret member]
    rfl
  rw [map_update_secretRow, same] at reached
  exact {
    collation_eq := rfl
    sound := {
      labelled := stores.labelled
      owned := by
        intro secret member
        rw [stores.unowned secret member]
        intro id belongs
        cases belongs
      narrow := by
        intro user member
        cases member
      uniqueLogins := by
        intro user member
        cases member }
    consists := ⟨schemas, reached⟩ }

theorem Stores.unowned {db : Db} (stores : Stores collation catalog db)
    {next : Catalog ColumnType SqlValue} {schemas : List String}
    (reached : next.Consists schemas
      [secretTable ((db.secrets.rows.map secretRow).map fun row =>
        Function.update row "UserId" none)]) :
    ∃ secrets, StoresUnowned next secrets := by
  rw [map_update_secretRow] at reached
  have keys : ((db.secrets.rows.map disowned).map Secret.id).Nodup := by
    rw [List.map_map]
    exact db.secrets.keys_nodup
  refine ⟨⟨db.secrets.rows.map disowned, keys⟩, ?_, ?_, schemas, reached⟩
  · intro secret member
    obtain ⟨old, oldMember, rfl⟩ := List.mem_map.mp member
    exact stores.sound.labelled old oldMember
  · intro secret member
    obtain ⟨old, oldMember, rfl⟩ := List.mem_map.mp member
    rfl

theorem EntityStage.stage (stage : EntityStage collation before) : Stage before := by
  cases stage with
  | fresh consists => exact .fresh consists
  | password _ consists => exact .password consists
  | secret stores =>
      obtain ⟨_, consists⟩ := stores.consists
      exact .secret consists
  | owned stores =>
      obtain ⟨_, consists⟩ := stores.consists
      exact .owned consists

theorem EntityStage.insert (stage : EntityStage collation before) (table : TableName)
    (row : SqlRow) :
    EntityStage collation ⟨before.applied,
      (before.catalog.insertRow (sqlServer collation) table row).getD before.catalog⟩ := by
  cases stage with
  | fresh consists => exact .fresh (insertRow_fresh collation consists table row)
  | password reordered consists =>
      obtain ⟨_, kept⟩ := insertRow_password collation consists table row
      exact .password reordered kept
  | secret stores =>
      obtain ⟨next, kept⟩ := stores.insertRow collation table row
      exact .secret kept
  | owned stores =>
      obtain ⟨next, kept⟩ := stores.insertRow table row
      exact .owned kept

theorem EntityStage.step (collation : Utf16 → Utf16) (before : Migrated ColumnType SqlValue)
    (action : Action SqlValue) (stage : EntityStage collation before) :
    ∃ after, (migrator collation).perform before action = some after ∧
      EntityStage collation after := by
  obtain ⟨after, performs, step⟩ := stage.stage.moves collation action
  refine ⟨after, performs, ?_⟩
  cases step with
  | stays => exact stage
  | inserted => exact stage.insert _ _
  | initialCreate _ reached => exact .password (.refl _) reached
  | @renamed _ next schemas reached =>
      have none : StoresUnowned next (.empty : Table Secret.id) :=
        ⟨by nofun, by nofun, schemas, reached⟩
      exact .secret none
  | reverted reached => exact .password reordered_reverted reached
  | @userAdded _ _ rows _ _ consists reached =>
      cases stage with
      | @secret _ secrets stores =>
          obtain ⟨_, stored⟩ := stores.consists
          have same : rows = secrets.rows.map secretRow :=
            congrArg Relation.rows (List.cons.inj (consists.unique stored)).1
          exact .owned (stores.owned (same ▸ reached))
  | @userRemoved _ _ rows _ _ _ consists reached =>
      cases stage with
      | @owned _ db stores =>
          obtain ⟨_, stored⟩ := stores.consists
          have same : rows = db.secrets.rows.map secretRow :=
            congrArg Relation.rows (List.cons.inj (consists.unique stored)).1
          obtain ⟨_, unowned⟩ := stores.unowned (same ▸ reached)
          exact .secret unowned

end Stages

end SecretServer.Migrations
