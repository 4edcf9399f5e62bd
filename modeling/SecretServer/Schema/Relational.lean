import SecretServer.Data.Table
import Mathlib.Logic.Function.Basic

namespace SecretServer.Schema

open Data

/-! Relational databases and the statements that define their tables.  A statement
that an engine refuses is `none` and leaves the database as it was.  The types `τ` of
columns and the values `ν` in them are parameters. -/

structure TableName where
  schema : String
  name : String
  deriving DecidableEq

structure Column (τ : Type) where
  name : String
  type : τ
  nullable : Bool

structure PrimaryKey where
  name : String
  column : String

structure Index where
  name : String
  column : String
  unique : Bool

structure ForeignKey where
  name : String
  column : String
  principal : TableName
  principalColumn : String

/-- What an engine knows of its types: which values a column holds, which columns an
index may have, and the value that stands for all values equal to a given one. -/
structure Dialect (τ ν : Type) where
  fits : τ → ν → Bool
  indexable : τ → Bool
  collate : ν → ν

/-- The value in each column, `none` for `NULL` and where there is no such column. -/
abbrev Row (ν : Type) := String → Option ν

structure Relation (τ ν : Type) where
  name : TableName
  columns : List (Column τ)
  primaryKey : PrimaryKey
  indexes : List Index := []
  foreignKeys : List ForeignKey := []
  rows : List (Row ν) := []

structure Catalog (τ ν : Type) where
  schemas : List String
  tables : Table (@Relation.name τ ν)

inductive Operation (τ : Type) where
  | ensureSchema (name : String)
  | createTable (name : TableName) (columns : List (Column τ)) (primaryKey : PrimaryKey)
  | dropTable (name : TableName)
  | addColumn (table : TableName) (column : Column τ)
  | dropColumn (table : TableName) (column : String)
  | createIndex (table : TableName) (index : Index)
  | dropIndex (table : TableName) (index : String)
  | addForeignKey (table : TableName) (foreignKey : ForeignKey)
  | dropForeignKey (table : TableName) (foreignKey : String)

variable {τ ν : Type}

def Dialect.columnValues (dialect : Dialect τ ν) (column : String) (rows : List (Row ν)) :
    List ν :=
  rows.filterMap fun row => (row column).map dialect.collate

namespace Relation

def columnNames (relation : Relation τ ν) : List String :=
  relation.columns.map Column.name

def indexNames (relation : Relation τ ν) : List String :=
  relation.primaryKey.name :: relation.indexes.map Index.name

def foreignKeyNames (relation : Relation τ ν) : List String :=
  relation.foreignKeys.map ForeignKey.name

def keyColumns (relation : Relation τ ν) : List String :=
  relation.primaryKey.column :: (relation.indexes.filter Index.unique).map Index.column

def constrainedColumns (relation : Relation τ ν) : List String :=
  relation.primaryKey.column ::
    (relation.indexes.map Index.column ++ relation.foreignKeys.map ForeignKey.column)

def Fits (dialect : Dialect τ ν) (relation : Relation τ ν) : Prop :=
  ∀ row ∈ relation.rows, ∀ column ∈ relation.columns,
    (match row column.name with
    | none => column.nullable
    | some value => dialect.fits column.type value) = true

def KeysUnique [DecidableEq ν] (dialect : Dialect τ ν) (relation : Relation τ ν) : Prop :=
  ∀ column ∈ relation.keyColumns, (dialect.columnValues column relation.rows).Nodup

instance (dialect : Dialect τ ν) (relation : Relation τ ν) :
    Decidable (relation.Fits dialect) :=
  inferInstanceAs (Decidable (∀ row ∈ relation.rows, ∀ column ∈ relation.columns,
    (match row column.name with
    | none => column.nullable
    | some value => dialect.fits column.type value) = true))

instance [DecidableEq ν] (dialect : Dialect τ ν) (relation : Relation τ ν) :
    Decidable (relation.KeysUnique dialect) :=
  inferInstanceAs (Decidable (∀ column ∈ relation.keyColumns,
    (dialect.columnValues column relation.rows).Nodup))

def created (name : TableName) (columns : List (Column τ)) (primaryKey : PrimaryKey) :
    Relation τ ν :=
  { name, columns, primaryKey }

def withColumn (relation : Relation τ ν) (column : Column τ) : Relation τ ν :=
  { relation with
    columns := relation.columns ++ [column]
    rows := relation.rows.map fun row => Function.update row column.name none }

def withoutColumn (relation : Relation τ ν) (column : String) : Relation τ ν :=
  { relation with
    columns := relation.columns.filter fun other => other.name ≠ column
    rows := relation.rows.map fun row => Function.update row column none }

def withIndex (relation : Relation τ ν) (index : Index) : Relation τ ν :=
  { relation with indexes := relation.indexes ++ [index] }

def withoutIndex (relation : Relation τ ν) (index : String) : Relation τ ν :=
  { relation with indexes := relation.indexes.filter fun other => other.name ≠ index }

def withForeignKey (relation : Relation τ ν) (foreignKey : ForeignKey) : Relation τ ν :=
  { relation with foreignKeys := relation.foreignKeys ++ [foreignKey] }

def withoutForeignKey (relation : Relation τ ν) (foreignKey : String) : Relation τ ν :=
  { relation with
    foreignKeys := relation.foreignKeys.filter fun other => other.name ≠ foreignKey }

def addColumn (relation : Relation τ ν) (column : Column τ) : Option (Relation τ ν) :=
  if column.name ∉ relation.columnNames ∧
      (column.nullable = true ∨ relation.rows.isEmpty = true) then
    some (relation.withColumn column)
  else
    none

def dropColumn (relation : Relation τ ν) (column : String) : Option (Relation τ ν) :=
  if column ∈ relation.columnNames ∧ column ∉ relation.constrainedColumns then
    some (relation.withoutColumn column)
  else
    none

def createIndex [DecidableEq ν] (dialect : Dialect τ ν) (relation : Relation τ ν)
    (index : Index) : Option (Relation τ ν) :=
  if index.name ∉ relation.indexNames ∧
      (∃ column ∈ relation.columns,
        column.name = index.column ∧ dialect.indexable column.type = true) ∧
      (index.unique = true →
        (dialect.columnValues index.column relation.rows).Nodup) then
    some (relation.withIndex index)
  else
    none

def dropForeignKey (relation : Relation τ ν) (foreignKey : String) :
    Option (Relation τ ν) :=
  if foreignKey ∈ relation.foreignKeyNames then
    some (relation.withoutForeignKey foreignKey)
  else
    none

/-- Append a row, of which only the columns of the table are kept. -/
def addRow (relation : Relation τ ν) (row : Row ν) : Relation τ ν :=
  { relation with
    rows := relation.rows ++
      [fun column => if column ∈ relation.columnNames then row column else none] }

end Relation

namespace Catalog

def empty : Catalog τ ν := ⟨[], .empty⟩

/-- The tables, keys and foreign keys of a schema, which share one space of names. -/
def objectNames (catalog : Catalog τ ν) (schema : String) : List String :=
  (catalog.tables.rows.filter fun relation => relation.name.schema = schema).flatMap
    fun relation =>
      relation.name.name :: relation.primaryKey.name :: relation.foreignKeyNames

def put (catalog : Catalog τ ν) (relation : Relation τ ν) : Catalog τ ν :=
  { catalog with tables := catalog.tables.update relation }

def alter (catalog : Catalog τ ν) (name : TableName)
    (change : Relation τ ν → Option (Relation τ ν)) : Option (Catalog τ ν) := do
  let relation ← catalog.tables.find? name
  let changed ← change relation
  some (catalog.put changed)

def Referenced (catalog : Catalog τ ν) (name : TableName) : Prop :=
  ∃ relation ∈ catalog.tables.rows, relation.name ≠ name ∧
    ∃ foreignKey ∈ relation.foreignKeys, foreignKey.principal = name

/-- A foreign key refers to a column that only this index makes a key. -/
def Enforces (catalog : Catalog τ ν) (relation : Relation τ ν) (index : String) : Prop :=
  ∃ other ∈ relation.indexes, other.name = index ∧ other.unique = true ∧
    other.column ≠ relation.primaryKey.column ∧
    ∃ referring ∈ catalog.tables.rows, ∃ foreignKey ∈ referring.foreignKeys,
      foreignKey.principal = relation.name ∧ foreignKey.principalColumn = other.column

instance (catalog : Catalog τ ν) (name : TableName) :
    Decidable (catalog.Referenced name) :=
  inferInstanceAs (Decidable (∃ relation ∈ catalog.tables.rows, relation.name ≠ name ∧
    ∃ foreignKey ∈ relation.foreignKeys, foreignKey.principal = name))

instance (catalog : Catalog τ ν) (relation : Relation τ ν) (index : String) :
    Decidable (catalog.Enforces relation index) :=
  inferInstanceAs (Decidable (∃ other ∈ relation.indexes, other.name = index ∧
    other.unique = true ∧ other.column ≠ relation.primaryKey.column ∧
    ∃ referring ∈ catalog.tables.rows, ∃ foreignKey ∈ referring.foreignKeys,
      foreignKey.principal = relation.name ∧ foreignKey.principalColumn = other.column))

section Integrity

variable [DecidableEq ν] (dialect : Dialect τ ν)

def resolves (catalog : Catalog τ ν) (relation : Relation τ ν) (foreignKey : ForeignKey) :
    Bool :=
  (catalog.tables.find? foreignKey.principal).any fun principal =>
    (dialect.columnValues foreignKey.column relation.rows).all fun value =>
      value ∈ dialect.columnValues foreignKey.principalColumn principal.rows

def connects [DecidableEq τ] (catalog : Catalog τ ν) (relation : Relation τ ν)
    (foreignKey : ForeignKey) : Bool :=
  (catalog.tables.find? foreignKey.principal).any fun principal =>
    foreignKey.principalColumn ∈ principal.keyColumns ∧
      ∃ column ∈ relation.columns, ∃ principalColumn ∈ principal.columns,
        column.name = foreignKey.column ∧
        principalColumn.name = foreignKey.principalColumn ∧
        column.type = principalColumn.type

/-- `INSERT`, refused when it breaks a constraint of the table. -/
def insertRow (catalog : Catalog τ ν) (name : TableName) (row : Row ν) :
    Option (Catalog τ ν) :=
  catalog.alter name fun relation =>
    let extended := relation.addRow row
    if extended.Fits dialect ∧ extended.KeysUnique dialect ∧
        ∀ foreignKey ∈ extended.foreignKeys,
          (catalog.put extended).resolves dialect extended foreignKey = true then
      some extended
    else
      none

end Integrity

end Catalog

def Operation.apply [DecidableEq τ] [DecidableEq ν] (dialect : Dialect τ ν)
    (catalog : Catalog τ ν) : Operation τ → Option (Catalog τ ν)
  | .ensureSchema name =>
      if name ∈ catalog.schemas then
        some catalog
      else
        some ⟨catalog.schemas ++ [name], catalog.tables⟩
  | .createTable name columns primaryKey =>
      if name.schema ∈ catalog.schemas ∧
          name.name ∉ catalog.objectNames name.schema ∧
          primaryKey.name ∉ catalog.objectNames name.schema ∧
          primaryKey.name ≠ name.name ∧ (columns.map Column.name).Nodup ∧
          ∃ column ∈ columns, column.name = primaryKey.column ∧
            column.nullable = false ∧ dialect.indexable column.type = true then
        (catalog.tables.insert? (Relation.created name columns primaryKey)).map
          (Catalog.mk catalog.schemas)
      else
        none
  | .dropTable name =>
      if (catalog.tables.find? name).isSome ∧ ¬ catalog.Referenced name then
        some ⟨catalog.schemas, catalog.tables.delete name⟩
      else
        none
  | .addColumn table column => catalog.alter table (·.addColumn column)
  | .dropColumn table column => catalog.alter table (·.dropColumn column)
  | .createIndex table index => catalog.alter table (·.createIndex dialect index)
  | .dropIndex table index =>
      catalog.alter table fun relation =>
        if index ∈ relation.indexes.map Index.name ∧
            ¬ catalog.Enforces relation index then
          some (relation.withoutIndex index)
        else
          none
  | .addForeignKey table foreignKey =>
      catalog.alter table fun relation =>
        if foreignKey.name ∉ catalog.objectNames table.schema ∧
            catalog.connects relation foreignKey = true ∧
            catalog.resolves dialect relation foreignKey = true then
          some (relation.withForeignKey foreignKey)
        else
          none
  | .dropForeignKey table foreignKey => catalog.alter table (·.dropForeignKey foreignKey)

def applyAll [DecidableEq τ] [DecidableEq ν] (dialect : Dialect τ ν)
    (catalog : Catalog τ ν) (operations : List (Operation τ)) : Option (Catalog τ ν) :=
  operations.foldlM (Operation.apply dialect) catalog

end SecretServer.Schema
