import SecretServer.Migrations.EntityStages

namespace SecretServer.Migrations

open Text Schema

/-! The model that each migration was made for, and the tables that Entity Framework
names and lays out for it. -/

structure Property where
  name : String
  columnType : ColumnType
  isRequired : Bool

structure ModelIndex where
  property : String
  isUnique : Bool := false

structure Relationship where
  foreignKey : String
  principal : TableName
  principalKey : String

structure EntityType where
  properties : List Property
  key : String
  indexes : List ModelIndex := []
  relationships : List Relationship := []
  table : TableName

def Property.column (property : Property) : Column ColumnType :=
  ⟨property.name, property.columnType, !property.isRequired⟩

namespace EntityType

variable (entityType : EntityType)

/-! The default names. -/

def primaryKey : PrimaryKey := ⟨"PK_" ++ entityType.table.name, entityType.key⟩

def index (index : ModelIndex) : Index :=
  ⟨"IX_" ++ entityType.table.name ++ "_" ++ index.property, index.property, index.isUnique⟩

def foreignKey (relationship : Relationship) : ForeignKey where
  name := "FK_" ++ entityType.table.name ++ "_" ++ relationship.principal.name ++ "_" ++
    relationship.foreignKey
  column := relationship.foreignKey
  principal := relationship.principal
  principalColumn := relationship.principalKey

/-- The order of the columns is left open. -/
structure LaidOut (relation : Relation ColumnType SqlValue) : Prop where
  name : relation.name = entityType.table
  columns : relation.columns.Perm (entityType.properties.map Property.column)
  primaryKey : relation.primaryKey = entityType.primaryKey
  indexes : relation.indexes = entityType.indexes.map entityType.index
  foreignKeys : relation.foreignKeys = entityType.relationships.map entityType.foreignKey

end EntityType

/-! `BuildTargetModel` of each migration. -/

def InitialCreate.targetModel : List EntityType :=
  [{ properties := [
      ⟨"Id", .uniqueidentifier, true⟩,
      ⟨"CreatedAt", .datetime2, true⟩,
      ⟨"Ttl", .nvarcharMax, true⟩,
      ⟨"UpdatedAt", .datetime2, true⟩,
      ⟨"Value", .nvarcharMax, true⟩]
     key := "Id"
     table := ⟨"pass", "Password"⟩ }]

def RenamePasswordTableToSecret.targetModel : List EntityType :=
  [{ properties := [
      ⟨"Id", .uniqueidentifier, true⟩,
      ⟨"CreatedAt", .datetime2, true⟩,
      ⟨"Ttl", .nvarcharMax, true⟩,
      ⟨"UpdatedAt", .datetime2, true⟩,
      ⟨"Value", .nvarcharMax, true⟩]
     key := "Id"
     table := ⟨"secret", "Secret"⟩ }]

def AddUser.targetModel : List EntityType :=
  [{ properties := [
      ⟨"Id", .uniqueidentifier, true⟩,
      ⟨"CreatedAt", .datetime2, true⟩,
      ⟨"Ttl", .nvarcharMax, true⟩,
      ⟨"UpdatedAt", .datetime2, true⟩,
      ⟨"UserId", .uniqueidentifier, false⟩,
      ⟨"Value", .nvarcharMax, true⟩]
     key := "Id"
     indexes := [⟨"UserId", false⟩]
     relationships := [⟨"UserId", ⟨"users", "User"⟩, "Id"⟩]
     table := ⟨"secret", "Secret"⟩ },
   { properties := [
      ⟨"Id", .uniqueidentifier, true⟩,
      ⟨"AuthProviderId", .nvarchar 450, true⟩,
      ⟨"CreatedAt", .datetime2, true⟩,
      ⟨"UpdatedAt", .datetime2, true⟩]
     key := "Id"
     indexes := [⟨"AuthProviderId", true⟩]
     table := ⟨"users", "User"⟩ }]

/-- The models in the order of the migrations, after the empty one. -/
def targetModels : List (List EntityType) :=
  [[], InitialCreate.targetModel, RenamePasswordTableToSecret.targetModel,
    AddUser.targetModel]

/-- `BuildModel` of the snapshot, which repeats the last target model. -/
def NgPassContextModelSnapshot : List EntityType := AddUser.targetModel

section Stages

variable {collation : Utf16 → Utf16} {before after : Migrated ColumnType SqlValue}

theorem EntityStage.laidOut (stage : EntityStage collation before) :
    ∃ model, targetModels[before.applied]? = some model ∧
      List.Forall₂ EntityType.LaidOut model before.catalog.tables.rows := by
  cases stage with
  | fresh consists =>
      refine ⟨[], rfl, ?_⟩
      rw [consists.rows_eq]
      exact .nil
  | password reordered consists =>
      refine ⟨InitialCreate.targetModel, rfl, ?_⟩
      rw [consists.rows_eq]
      refine .cons ⟨rfl, reordered.trans ?_, rfl, rfl, rfl⟩ .nil
      decide
  | secret stores =>
      obtain ⟨schemas, consists⟩ := stores.consists
      refine ⟨RenamePasswordTableToSecret.targetModel, rfl, ?_⟩
      rw [consists.rows_eq]
      refine .cons ⟨rfl, ?_, rfl, rfl, rfl⟩ .nil
      change secretColumns.Perm _
      decide
  | owned stores =>
      obtain ⟨schemas, consists⟩ := stores.consists
      refine ⟨AddUser.targetModel, rfl, ?_⟩
      rw [consists.rows_eq]
      refine .cons ⟨rfl, ?_, rfl, rfl, rfl⟩ (.cons ⟨rfl, .refl _, rfl, rfl, rfl⟩ .nil)
      change (secretColumns ++
        [(⟨"UserId", .uniqueidentifier, true⟩ : Column ColumnType)]).Perm _
      decide

theorem EntityStage.applied_le (stage : EntityStage collation before) :
    before.applied ≤ 3 := by
  cases stage <;> simp

theorem applied_of_up (within : before.applied ≤ 3)
    (performs : (migrator collation).perform before .up = some after) :
    after.applied = min 3 (before.applied + 1) := by
  obtain ⟨applied, catalog⟩ := before
  have version : applied = 0 ∨ applied = 1 ∨ applied = 2 ∨ applied = 3 := by
    dsimp only at within
    omega
  rcases version with rfl | rfl | rfl | rfl
  · obtain ⟨_, -, rfl⟩ := Option.map_eq_some_iff.mp performs
    rfl
  · obtain ⟨_, -, rfl⟩ := Option.map_eq_some_iff.mp performs
    rfl
  · obtain ⟨_, -, rfl⟩ := Option.map_eq_some_iff.mp performs
    rfl
  · cases performs
    rfl

/-- `Migrate` applies what is pending; a step off the chain does nothing. -/
theorem EntityStage.migrate (stage : EntityStage collation before) :
    ∃ migrated, (migrator collation).run before [.up, .up, .up] = some migrated ∧
      EntityStage collation migrated ∧ migrated.applied = 3 := by
  obtain ⟨first, performsFirst, firstStage⟩ := EntityStage.step collation before .up stage
  obtain ⟨second, performsSecond, secondStage⟩ :=
    EntityStage.step collation first .up firstStage
  obtain ⟨third, performsThird, thirdStage⟩ :=
    EntityStage.step collation second .up secondStage
  refine ⟨third, ?_, thirdStage, ?_⟩
  · simp [Migrator.run, performsFirst, performsSecond, performsThird]
  · have fromFirst := applied_of_up stage.applied_le performsFirst
    have fromSecond := applied_of_up firstStage.applied_le performsSecond
    have fromThird := applied_of_up secondStage.applied_le performsThird
    omega

end Stages

/-- The tables are those of the last migration's model after every run, and those of the
snapshot once `Migrate` has applied what is pending. -/
theorem migrations_reach_target_models (collation : Utf16 → Utf16)
    (actions : List (Action SqlValue)) :
    ∃ database model, (migrator collation).run fresh actions = some database ∧
      targetModels[database.applied]? = some model ∧
      List.Forall₂ EntityType.LaidOut model database.catalog.tables.rows ∧
      ∃ migrated, (migrator collation).run database [.up, .up, .up] = some migrated ∧
        List.Forall₂ EntityType.LaidOut NgPassContextModelSnapshot
          migrated.catalog.tables.rows := by
  obtain ⟨database, reached, stage⟩ :=
    Migrator.run_invariant (EntityStage.step collation) (.fresh .empty) actions
  obtain ⟨model, targeted, laidOut⟩ := stage.laidOut
  obtain ⟨migrated, migrates, lastStage, applied⟩ := stage.migrate
  obtain ⟨snapshot, last, snapshotLaidOut⟩ := lastStage.laidOut
  rw [applied] at last
  obtain rfl : NgPassContextModelSnapshot = snapshot := Option.some.inj last
  exact ⟨database, model, reached, targeted, laidOut, migrated, migrates, snapshotLaidOut⟩

end SecretServer.Migrations
