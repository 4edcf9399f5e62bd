import SecretServer.Migrations.Chain
import SecretServer.Schema.Rules

namespace SecretServer.Migrations

open Text Schema

abbrev SqlRow := Row SqlValue

def secretColumns : List (Column ColumnType) :=
  [⟨"Id", .uniqueidentifier, false⟩, ⟨"Value", .nvarcharMax, false⟩,
    ⟨"Ttl", .nvarcharMax, false⟩, ⟨"CreatedAt", .datetime2, false⟩,
    ⟨"UpdatedAt", .datetime2, false⟩]

/-- The columns that the renaming puts back on its way down. -/
def revertedColumns : List (Column ColumnType) :=
  [⟨"Id", .uniqueidentifier, false⟩, ⟨"CreatedAt", .datetime2, false⟩,
    ⟨"Ttl", .nvarcharMax, false⟩, ⟨"UpdatedAt", .datetime2, false⟩,
    ⟨"Value", .nvarcharMax, false⟩]

def passwordTable (columns : List (Column ColumnType)) (rows : List SqlRow) :
    Relation ColumnType SqlValue :=
  { name := ⟨"pass", "Password"⟩, columns, primaryKey := ⟨"PK_Password", "Id"⟩, rows }

def secretTable (rows : List SqlRow) : Relation ColumnType SqlValue :=
  { name := ⟨"secret", "Secret"⟩, columns := secretColumns,
    primaryKey := ⟨"PK_Secret", "Id"⟩, rows }

def ownedSecretTable (rows : List SqlRow) : Relation ColumnType SqlValue where
  name := ⟨"secret", "Secret"⟩
  columns := secretColumns ++ [⟨"UserId", .uniqueidentifier, true⟩]
  primaryKey := ⟨"PK_Secret", "Id"⟩
  indexes := [⟨"IX_Secret_UserId", "UserId", false⟩]
  foreignKeys := [⟨"FK_Secret_User_UserId", "UserId", ⟨"users", "User"⟩, "Id"⟩]
  rows := rows

def userTable (rows : List SqlRow) : Relation ColumnType SqlValue where
  name := ⟨"users", "User"⟩
  columns := [⟨"Id", .uniqueidentifier, false⟩, ⟨"AuthProviderId", .nvarchar 450, false⟩,
    ⟨"CreatedAt", .datetime2, false⟩, ⟨"UpdatedAt", .datetime2, false⟩]
  primaryKey := ⟨"PK_User", "Id"⟩
  indexes := [⟨"IX_User_AuthProviderId", "AuthProviderId", true⟩]
  rows := rows

inductive Stage : Migrated ColumnType SqlValue → Prop
  | fresh {catalog} (consists : catalog.Consists [] []) : Stage ⟨0, catalog⟩
  | password {catalog schemas columns rows}
      (consists : catalog.Consists schemas [passwordTable columns rows]) :
      Stage ⟨1, catalog⟩
  | secret {catalog schemas rows}
      (consists : catalog.Consists schemas [secretTable rows]) : Stage ⟨2, catalog⟩
  | owned {catalog schemas rows users}
      (consists : catalog.Consists schemas [ownedSecretTable rows, userTable users]) :
      Stage ⟨3, catalog⟩

section Statements

variable {collation : Utf16 → Utf16} {catalog : Catalog ColumnType SqlValue}
  {schemas : List String} {rows users : List SqlRow}
  {columns : List (Column ColumnType)}

def Becomes (collation : Utf16 → Utf16) (catalog : Catalog ColumnType SqlValue)
    (operations : List (Operation ColumnType))
    (relations : List (Relation ColumnType SqlValue)) : Prop :=
  Reaches (sqlServer collation) catalog operations fun result =>
    ∃ schemas, result.Consists schemas relations

theorem initialCreate_up (consists : catalog.Consists schemas []) :
    Becomes collation catalog InitialCreate.up [passwordTable secretColumns []] := by
  apply consists.createFirst
  · decide
  · decide
  · simp [sqlServer]
  intro catalog schemas consists
  exact .nil ⟨_, consists⟩

theorem renamePasswordTableToSecret_up
    (consists : catalog.Consists schemas [passwordTable columns rows]) :
    Becomes collation catalog RenamePasswordTableToSecret.up [secretTable []] := by
  apply consists.dropTable []
  · simp
  intro catalog consists
  apply consists.createFirst
  · decide
  · decide
  · simp [sqlServer]
  intro catalog schemas consists
  exact .nil ⟨_, consists⟩

theorem renamePasswordTableToSecret_down
    (consists : catalog.Consists schemas [secretTable rows]) :
    Becomes collation catalog RenamePasswordTableToSecret.down
      [passwordTable revertedColumns []] := by
  apply consists.dropTable []
  · simp
  intro catalog consists
  apply consists.createFirst
  · decide
  · decide
  · simp [sqlServer]
  intro catalog schemas consists
  exact .nil ⟨_, consists⟩

theorem addUser_up (consists : catalog.Consists schemas [secretTable rows]) :
    Becomes collation catalog AddUser.up
      [ownedSecretTable (rows.map fun row => Function.update row "UserId" none),
        userTable []] := by
  apply consists.ensureSchema
  intro catalog schemas known consists
  apply consists.addColumn []
  · simp [Relation.columnNames, secretTable, secretColumns]
  · rfl
  intro catalog consists
  apply consists.createTable known
  · simp [consists.objectNames, Relation.withColumn, secretTable]
  · simp [consists.objectNames, Relation.withColumn, secretTable]
  · decide
  · decide
  · simp [sqlServer]
  intro catalog consists
  apply consists.createIndex []
  · simp [Relation.indexNames, Relation.withColumn, secretTable]
  · simp [sqlServer, Relation.withColumn, secretTable]
  · simp
  intro catalog consists
  apply consists.createIndex [_]
  · simp [Relation.indexNames, Relation.created]
  · simp [sqlServer, Relation.created]
  · simp [Dialect.columnValues, Relation.created]
  intro catalog consists
  have found : catalog.tables.find? ⟨"users", "User"⟩ = some (userTable []) :=
    consists.find? (List.mem_cons_of_mem _ List.mem_cons_self)
  apply consists.addForeignKey []
  · simp [consists.objectNames, Relation.withColumn, Relation.withIndex, Relation.created,
      Relation.foreignKeyNames, secretTable]
  · simp [Catalog.connects, found, Relation.keyColumns, Relation.withColumn,
      Relation.withIndex, secretTable, userTable]
  · simp [Catalog.resolves, found, Dialect.columnValues, Relation.withColumn,
      Relation.withIndex, secretTable]
  intro catalog consists
  exact .nil ⟨_, consists⟩

theorem addUser_down
    (consists : catalog.Consists schemas [ownedSecretTable rows, userTable users]) :
    Becomes collation catalog AddUser.down
      [secretTable (rows.map fun row => Function.update row "UserId" none)] := by
  apply consists.dropForeignKey []
  · simp [Relation.foreignKeyNames, ownedSecretTable]
  intro catalog consists
  apply consists.dropTable [_]
  · simp [Relation.withoutForeignKey, ownedSecretTable, userTable]
  intro catalog consists
  apply consists.dropIndex []
  · simp [Relation.withoutForeignKey, ownedSecretTable]
  · simp [Catalog.Enforces, Relation.withoutForeignKey, ownedSecretTable]
  intro catalog consists
  apply consists.dropColumn []
  · simp [Relation.columnNames, Relation.withoutForeignKey, Relation.withoutIndex,
      ownedSecretTable]
  · simp [Relation.constrainedColumns, Relation.withoutForeignKey, Relation.withoutIndex,
      ownedSecretTable]
  intro catalog consists
  exact .nil ⟨_, consists⟩

end Statements

theorem map_secretFields_withoutOwner (rows : List SqlRow) :
    (rows.map fun row => Function.update row "UserId" none).map secretFields =
      rows.map secretFields := by
  rw [List.map_map]
  apply List.map_congr_left
  intro row _
  simp [secretFields]

section Stages

variable {collation : Utf16 → Utf16} {catalog : Catalog ColumnType SqlValue}
  {schemas : List String} {rows users : List SqlRow} {columns : List (Column ColumnType)}
  {before after : Migrated ColumnType SqlValue} {migration : Migration ColumnType}
  {relations : List (Relation ColumnType SqlValue)}

theorem storedSecrets_fresh (consists : catalog.Consists schemas []) :
    storedSecrets ⟨0, catalog⟩ = 0 := by
  have absent : catalog.tables.find? (secretTableName 0) = none :=
    consists.find?_eq_none (by simp)
  simp [storedSecrets, absent]

theorem storedSecrets_password
    (consists : catalog.Consists schemas [passwordTable columns rows]) :
    storedSecrets ⟨1, catalog⟩ = rows.map secretFields := by
  have found : catalog.tables.find? (secretTableName 1) = some (passwordTable columns rows) :=
    consists.find? List.mem_cons_self
  simp [storedSecrets, found, passwordTable]

theorem storedSecrets_secret (consists : catalog.Consists schemas [secretTable rows]) :
    storedSecrets ⟨2, catalog⟩ = rows.map secretFields := by
  have found : catalog.tables.find? (secretTableName 2) = some (secretTable rows) :=
    consists.find? List.mem_cons_self
  simp [storedSecrets, found, secretTable]

theorem storedSecrets_owned
    (consists : catalog.Consists schemas [ownedSecretTable rows, userTable users]) :
    storedSecrets ⟨3, catalog⟩ = rows.map secretFields := by
  have found : catalog.tables.find? (secretTableName 3) = some (ownedSecretTable rows) :=
    consists.find? List.mem_cons_self
  simp [storedSecrets, found, ownedSecretTable]

theorem Becomes.up (becomes : Becomes collation catalog migration.up relations)
    (applied : Nat)
    (found : (migrator collation).migration? ⟨applied, catalog⟩ .up = some migration) :
    ∃ next schemas, next.Consists schemas relations ∧
      (migrator collation).perform ⟨applied, catalog⟩ .up = some ⟨applied + 1, next⟩ := by
  obtain ⟨next, applies, schemas, consists⟩ := becomes
  refine ⟨next, schemas, consists, ?_⟩
  have runs : applyAll (migrator collation).dialect catalog migration.up = some next :=
    applies
  simp [Migrator.perform, found, runs]

theorem Becomes.down (becomes : Becomes collation catalog migration.down relations)
    (applied : Nat)
    (found : (migrator collation).migration? ⟨applied + 1, catalog⟩ .down =
      some migration) :
    ∃ next schemas, next.Consists schemas relations ∧
      (migrator collation).perform ⟨applied + 1, catalog⟩ .down = some ⟨applied, next⟩ := by
  obtain ⟨next, applies, schemas, consists⟩ := becomes
  refine ⟨next, schemas, consists, ?_⟩
  have runs : applyAll (migrator collation).dialect catalog migration.down = some next :=
    applies
  simp [Migrator.perform, found, runs]

def CarriesUnlessRenaming (collation : Utf16 → Utf16)
    (before : Migrated ColumnType SqlValue) (action : Action SqlValue)
    (after : Migrated ColumnType SqlValue) : Prop :=
  ∀ migration, (migrator collation).migration? before action = some migration →
    (storedSecrets after = storedSecrets before ↔
      (migration = RenamePasswordTableToSecret → storedSecrets before = 0))

theorem initialCreate_ne : InitialCreate ≠ RenamePasswordTableToSecret := by
  intro same
  exact absurd (congrArg Migration.id same) (by decide)

theorem addUser_ne : AddUser ≠ RenamePasswordTableToSecret := by
  intro same
  exact absurd (congrArg Migration.id same) (by decide)

theorem CarriesUnlessRenaming.none {action : Action SqlValue}
    (off : (migrator collation).migration? before action = none) :
    CarriesUnlessRenaming collation before action after := by
  intro migration found
  rw [off] at found
  cases found

theorem CarriesUnlessRenaming.carried {action : Action SqlValue}
    (runs : (migrator collation).migration? before action = some migration)
    (other : migration ≠ RenamePasswordTableToSecret)
    (carries : storedSecrets after = storedSecrets before) :
    CarriesUnlessRenaming collation before action after := by
  intro _ found
  obtain rfl := Option.some.inj (runs.symm.trans found)
  constructor
  · intro _ same
    exact absurd same other
  · intro _
    exact carries

theorem CarriesUnlessRenaming.renamed {action : Action SqlValue}
    (runs : (migrator collation).migration? before action =
      some RenamePasswordTableToSecret)
    (emptied : storedSecrets after = 0) :
    CarriesUnlessRenaming collation before action after := by
  intro _ found
  obtain rfl := Option.some.inj (runs.symm.trans found)
  rw [emptied]
  constructor
  · intro lost _
    exact lost.symm
  · intro nothing
    exact (nothing rfl).symm

theorem insertRow_password (collation : Utf16 → Utf16)
    (consists : catalog.Consists schemas [passwordTable columns rows])
    (table : TableName) (row : SqlRow) :
    ∃ more, ((catalog.insertRow (sqlServer collation) table row).getD catalog).Consists
      schemas [passwordTable columns more] := by
  obtain ⟨_, kept, same⟩ := consists.insertRow (sqlServer collation) table row
  obtain ⟨_, _, ⟨more, rfl⟩, none, rfl⟩ := List.forall₂_cons_left_iff.mp same
  cases none
  exact ⟨more, kept⟩

theorem insertRow_fresh (collation : Utf16 → Utf16) (consists : catalog.Consists [] [])
    (table : TableName) (row : SqlRow) :
    ((catalog.insertRow (sqlServer collation) table row).getD catalog).Consists [] [] := by
  obtain ⟨_, kept, same⟩ := consists.insertRow (sqlServer collation) table row
  cases same
  exact kept

theorem Stage.insert (stage : Stage before) (collation : Utf16 → Utf16)
    (table : TableName) (row : SqlRow) :
    Stage ⟨before.applied, (before.catalog.insertRow (sqlServer collation) table row).getD
      before.catalog⟩ := by
  cases stage with
  | fresh consists => exact .fresh (insertRow_fresh collation consists table row)
  | password consists =>
      obtain ⟨_, kept⟩ := insertRow_password collation consists table row
      exact .password kept
  | secret consists =>
      obtain ⟨_, kept, same⟩ := consists.insertRow (sqlServer collation) table row
      obtain ⟨_, _, ⟨rows, rfl⟩, none, rfl⟩ := List.forall₂_cons_left_iff.mp same
      cases none
      exact .secret kept
  | owned consists =>
      obtain ⟨_, kept, same⟩ := consists.insertRow (sqlServer collation) table row
      obtain ⟨_, _, ⟨rows, rfl⟩, more, rfl⟩ := List.forall₂_cons_left_iff.mp same
      obtain ⟨_, _, ⟨users, rfl⟩, none, rfl⟩ := List.forall₂_cons_left_iff.mp more
      cases none
      exact .owned kept

/-- What an action does to a database at a stage of the chain. -/
inductive StageStep (collation : Utf16 → Utf16) : Migrated ColumnType SqlValue →
    Action SqlValue → Migrated ColumnType SqlValue → Prop
  | stays {database action} (off : (migrator collation).migration? database action = none) :
      StageStep collation database action database
  | inserted {database table row} :
      StageStep collation database (.insert table row) ⟨database.applied,
        (database.catalog.insertRow (sqlServer collation) table row).getD database.catalog⟩
  | initialCreate {catalog next schemas} (consists : catalog.Consists [] [])
      (reached : next.Consists schemas [passwordTable secretColumns []]) :
      StageStep collation ⟨0, catalog⟩ .up ⟨1, next⟩
  | renamed {catalog next schemas} (reached : next.Consists schemas [secretTable []]) :
      StageStep collation ⟨1, catalog⟩ .up ⟨2, next⟩
  | reverted {catalog next schemas}
      (reached : next.Consists schemas [passwordTable revertedColumns []]) :
      StageStep collation ⟨2, catalog⟩ .down ⟨1, next⟩
  | userAdded {catalog next rows earlier later}
      (consists : catalog.Consists earlier [secretTable rows])
      (reached : next.Consists later
        [ownedSecretTable (rows.map fun row => Function.update row "UserId" none),
          userTable []]) :
      StageStep collation ⟨2, catalog⟩ .up ⟨3, next⟩
  | userRemoved {catalog next rows users earlier later}
      (consists : catalog.Consists earlier [ownedSecretTable rows, userTable users])
      (reached : next.Consists later
        [secretTable (rows.map fun row => Function.update row "UserId" none)]) :
      StageStep collation ⟨3, catalog⟩ .down ⟨2, next⟩

/-- Every action applies. -/
theorem Stage.moves (stage : Stage before) (collation : Utf16 → Utf16)
    (action : Action SqlValue) :
    ∃ after, (migrator collation).perform before action = some after ∧
      StageStep collation before action after := by
  cases action with
  | insert table row => exact ⟨_, rfl, .inserted⟩
  | up =>
      cases stage with
      | fresh consists =>
          obtain ⟨next, schemas, reached, performs⟩ := (initialCreate_up consists).up 0 rfl
          exact ⟨_, performs, .initialCreate consists reached⟩
      | password consists =>
          obtain ⟨next, schemas, reached, performs⟩ :=
            (renamePasswordTableToSecret_up consists).up 1 rfl
          exact ⟨_, performs, .renamed reached⟩
      | secret consists =>
          obtain ⟨next, schemas, reached, performs⟩ := (addUser_up consists).up 2 rfl
          exact ⟨_, performs, .userAdded consists reached⟩
      | owned consists => exact ⟨_, rfl, .stays rfl⟩
  | down =>
      cases stage with
      | fresh consists => exact ⟨_, rfl, .stays rfl⟩
      | password consists => exact ⟨_, rfl, .stays rfl⟩
      | secret consists =>
          obtain ⟨next, schemas, reached, performs⟩ :=
            (renamePasswordTableToSecret_down consists).down 1 rfl
          exact ⟨_, performs, .reverted reached⟩
      | owned consists =>
          obtain ⟨next, schemas, reached, performs⟩ := (addUser_down consists).down 2 rfl
          exact ⟨_, performs, .userRemoved consists reached⟩

/-- The renaming leaves an empty table behind it, and the other migrations every
secret. -/
theorem Stage.step (stage : Stage before) (collation : Utf16 → Utf16)
    (action : Action SqlValue) :
    ∃ after, (migrator collation).perform before action = some after ∧
      Stage after ∧ CarriesUnlessRenaming collation before action after := by
  obtain ⟨after, performs, step⟩ := stage.moves collation action
  refine ⟨after, performs, ?_⟩
  cases step with
  | stays off => exact ⟨stage, .none off⟩
  | inserted => exact ⟨stage.insert collation _ _, .none rfl⟩
  | initialCreate consists reached =>
      refine ⟨.password reached, .carried rfl initialCreate_ne ?_⟩
      rw [storedSecrets_fresh consists, storedSecrets_password reached]
      rfl
  | renamed reached =>
      exact ⟨.secret reached, .renamed rfl (storedSecrets_secret reached)⟩
  | reverted reached =>
      exact ⟨.password reached, .renamed rfl (storedSecrets_password reached)⟩
  | userAdded consists reached =>
      refine ⟨.owned reached, .carried rfl addUser_ne ?_⟩
      rw [storedSecrets_secret consists, storedSecrets_owned reached,
        map_secretFields_withoutOwner]
  | userRemoved consists reached =>
      refine ⟨.secret reached, .carried rfl addUser_ne ?_⟩
      rw [storedSecrets_owned consists, storedSecrets_secret reached,
        map_secretFields_withoutOwner]

theorem Stage.performs (collation : Utf16 → Utf16) (before : Migrated ColumnType SqlValue)
    (action : Action SqlValue) (stage : Stage before) :
    ∃ after, (migrator collation).perform before action = some after ∧ Stage after := by
  obtain ⟨after, performs, kept, -⟩ := stage.step collation action
  exact ⟨after, performs, kept⟩

theorem Stage.carries (stage : Stage before) {action : Action SqlValue}
    (performs : (migrator collation).perform before action = some after) :
    CarriesUnlessRenaming collation before action after := by
  obtain ⟨result, performed, -, carries⟩ := stage.step collation action
  rw [performs] at performed
  exact Option.some.inj performed ▸ carries

end Stages

/-- Along the chain every step of every run applies, and all of them carry the secrets
over if and only if each renaming, up or down, finds its table empty. -/
theorem migrations_carry_secrets_iff (collation : Utf16 → Utf16)
    (actions : List (Action SqlValue)) :
    ((migrator collation).run fresh actions).isSome ∧
    ((∀ before action after migration,
        (migrator collation).Visits fresh actions before action after →
        (migrator collation).migration? before action = some migration →
          storedSecrets after = storedSecrets before) ↔
      ∀ before action after,
        (migrator collation).Visits fresh actions before action after →
        (migrator collation).migration? before action = some RenamePasswordTableToSecret →
          storedSecrets before = 0) := by
  have initial : Stage fresh := .fresh .empty
  have step := Stage.performs collation
  constructor
  · obtain ⟨result, reached, -⟩ := Migrator.run_invariant step initial actions
    simp [reached]
  constructor
  · intro carries before action after visits renames
    have stage := visits.invariant step initial
    exact (stage.carries visits.performs _ renames).mp
      (carries before action after _ visits renames) rfl
  · intro empty before action after migration visits runs
    have stage := visits.invariant step initial
    apply (stage.carries visits.performs _ runs).mpr
    intro same
    exact empty before action after visits (same ▸ runs)

def loneSecret : SqlRow
  | "Id" => some (.guid 1)
  | "Value" => some (.string [0x41])
  | "Ttl" => some (.string TimeToLive.day.getStringValue)
  | "CreatedAt" => some (.dateTime .minValue)
  | "UpdatedAt" => some (.dateTime .minValue)
  | _ => none

/-- A database at `InitialCreate` with one secret, which `Migrate` at startup loses. -/
theorem renaming_loses_lone_secret :
    ∃ before after,
      (migrator id).Visits fresh [.up, .insert ⟨"pass", "Password"⟩ loneSecret, .up]
        before .up after ∧
      (migrator id).migration? before .up = some RenamePasswordTableToSecret ∧
      storedSecrets before = {secretFields loneSecret} ∧ storedSecrets after = 0 := by
  have reached : ((migrator id).run fresh
      [.up, .insert ⟨"pass", "Password"⟩ loneSecret]).map
        (fun database => (database.applied, storedSecrets database)) =
      some (1, {secretFields loneSecret}) := by decide
  have emptied : ((migrator id).run fresh
      ([.up, .insert ⟨"pass", "Password"⟩ loneSecret] ++ [.up])).map storedSecrets =
      some 0 := by decide
  obtain ⟨before, found, facts⟩ := Option.map_eq_some_iff.mp reached
  obtain ⟨applied, stored⟩ := Prod.mk.inj facts
  rw [Migrator.run_concat, found] at emptied
  obtain ⟨after, performs, nothing⟩ := Option.map_eq_some_iff.mp emptied
  refine ⟨before, after, ⟨performs, _, [], rfl, found⟩, ?_, stored, nothing⟩
  simp [Migrator.migration?, migrator, applied]

end SecretServer.Migrations
