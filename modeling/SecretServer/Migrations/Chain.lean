import SecretServer.Core.Basic
import SecretServer.Schema.Migrator
import Mathlib.Data.Multiset.Basic

namespace SecretServer.Migrations

open Text Schema

/-! The migrations, statement by statement. -/

inductive ColumnType where
  | uniqueidentifier
  | nvarcharMax
  | nvarchar (length : Nat)
  | datetime2
  deriving DecidableEq

inductive SqlValue where
  | guid (value : Guid)
  | string (value : Utf16)
  | dateTime (value : DateTime)
  deriving DecidableEq

/-- SQL Server under a collation, which gives equal strings the same sort key. -/
def sqlServer (collation : Utf16 → Utf16) : Dialect ColumnType SqlValue where
  fits
    | .uniqueidentifier, .guid _ => true
    | .nvarcharMax, .string _ => true
    | .nvarchar length, .string value => value.length ≤ length
    | .datetime2, .dateTime _ => true
    | _, _ => false
  indexable type := type ≠ .nvarcharMax
  collate
    | .string value => .string (collation value)
    | value => value

def InitialCreate : Migration ColumnType where
  id := "20250608205047_InitialCreate"
  up := [
    .ensureSchema "pass",
    .createTable ⟨"pass", "Password"⟩
      [⟨"Id", .uniqueidentifier, false⟩,
        ⟨"Value", .nvarcharMax, false⟩,
        ⟨"Ttl", .nvarcharMax, false⟩,
        ⟨"CreatedAt", .datetime2, false⟩,
        ⟨"UpdatedAt", .datetime2, false⟩]
      ⟨"PK_Password", "Id"⟩]
  down := [.dropTable ⟨"pass", "Password"⟩]

def RenamePasswordTableToSecret : Migration ColumnType where
  id := "20250608224115_RenamePasswordTableToSecret"
  up := [
    .dropTable ⟨"pass", "Password"⟩,
    .ensureSchema "secret",
    .createTable ⟨"secret", "Secret"⟩
      [⟨"Id", .uniqueidentifier, false⟩,
        ⟨"Value", .nvarcharMax, false⟩,
        ⟨"Ttl", .nvarcharMax, false⟩,
        ⟨"CreatedAt", .datetime2, false⟩,
        ⟨"UpdatedAt", .datetime2, false⟩]
      ⟨"PK_Secret", "Id"⟩]
  down := [
    .dropTable ⟨"secret", "Secret"⟩,
    .ensureSchema "pass",
    .createTable ⟨"pass", "Password"⟩
      [⟨"Id", .uniqueidentifier, false⟩,
        ⟨"CreatedAt", .datetime2, false⟩,
        ⟨"Ttl", .nvarcharMax, false⟩,
        ⟨"UpdatedAt", .datetime2, false⟩,
        ⟨"Value", .nvarcharMax, false⟩]
      ⟨"PK_Password", "Id"⟩]

def AddUser : Migration ColumnType where
  id := "20250608231600_AddUser"
  up := [
    .ensureSchema "users",
    .addColumn ⟨"secret", "Secret"⟩ ⟨"UserId", .uniqueidentifier, true⟩,
    .createTable ⟨"users", "User"⟩
      [⟨"Id", .uniqueidentifier, false⟩,
        ⟨"AuthProviderId", .nvarchar 450, false⟩,
        ⟨"CreatedAt", .datetime2, false⟩,
        ⟨"UpdatedAt", .datetime2, false⟩]
      ⟨"PK_User", "Id"⟩,
    .createIndex ⟨"secret", "Secret"⟩ ⟨"IX_Secret_UserId", "UserId", false⟩,
    .createIndex ⟨"users", "User"⟩ ⟨"IX_User_AuthProviderId", "AuthProviderId", true⟩,
    .addForeignKey ⟨"secret", "Secret"⟩
      ⟨"FK_Secret_User_UserId", "UserId", ⟨"users", "User"⟩, "Id"⟩]
  down := [
    .dropForeignKey ⟨"secret", "Secret"⟩ "FK_Secret_User_UserId",
    .dropTable ⟨"users", "User"⟩,
    .dropIndex ⟨"secret", "Secret"⟩ "IX_Secret_UserId",
    .dropColumn ⟨"secret", "Secret"⟩ "UserId"]

/-- The chain, in the order of the identifiers; `InitialCreate` stays applied. -/
def migrator (collation : Utf16 → Utf16) : Migrator ColumnType SqlValue where
  dialect := sqlServer collation
  migrations := [InitialCreate, RenamePasswordTableToSecret, AddUser]
  lowest := 1

def fresh : Migrated ColumnType SqlValue := ⟨0, .empty⟩

def secretTableName (applied : Nat) : TableName :=
  if applied ≤ 1 then ⟨"pass", "Password"⟩ else ⟨"secret", "Secret"⟩

def secretFields (row : Row SqlValue) : List (Option SqlValue) :=
  ["Id", "Value", "Ttl", "CreatedAt", "UpdatedAt"].map row

/-- The multiset of secrets in the table that holds them. -/
def storedSecrets (database : Migrated ColumnType SqlValue) :
    Multiset (List (Option SqlValue)) :=
  match database.catalog.tables.find? (secretTableName database.applied) with
  | some relation => relation.rows.map secretFields
  | none => 0

end SecretServer.Migrations
