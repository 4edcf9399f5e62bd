import SecretServer.Schema.Rules

namespace SecretServer.Schema

open Data

/-! Statements on single rows.  An update or a delete names its row by the primary key,
and is refused when it hits no row; any statement is when it breaks a constraint. -/

inductive Statement (ν : Type) where
  | insert (table : TableName) (row : Row ν)
  | update (table : TableName) (key : ν) (row : Row ν)
  | delete (table : TableName) (key : ν)

variable {τ ν : Type} [DecidableEq ν]

namespace Relation

def keyed (dialect : Dialect τ ν) (relation : Relation τ ν) (key : ν) (row : Row ν) : Bool :=
  (row relation.primaryKey.column).map dialect.collate = some (dialect.collate key)

def clip (relation : Relation τ ν) (row : Row ν) : Row ν :=
  fun column => if column ∈ relation.columnNames then row column else none

def setRow (dialect : Dialect τ ν) (relation : Relation τ ν) (key : ν) (row : Row ν) :
    Relation τ ν :=
  { relation with
    rows := relation.rows.map fun old =>
      if relation.keyed dialect key old then relation.clip row else old }

def removeRow (dialect : Dialect τ ν) (relation : Relation τ ν) (key : ν) : Relation τ ν :=
  { relation with rows := relation.rows.filter fun old => !relation.keyed dialect key old }

omit [DecidableEq ν] in
theorem addRow_eq (relation : Relation τ ν) (row : Row ν) :
    relation.addRow row = { relation with rows := relation.rows ++ [relation.clip row] } :=
  rfl

omit [DecidableEq ν] in
theorem clip_eq {relation : Relation τ ν} {row : Row ν}
    (within : ∀ column, column ∉ relation.columnNames → row column = none) :
    relation.clip row = row := by
  funext column
  unfold clip
  split
  next => rfl
  next outside => exact (within column outside).symm

omit [DecidableEq ν] in
theorem addRow_clip (relation : Relation τ ν) (row : Row ν) :
    relation.addRow (relation.clip row) = relation.addRow row := by
  have same : relation.clip (relation.clip row) = relation.clip row := by
    apply clip_eq
    intro column outside
    exact if_neg outside
  rw [addRow_eq, addRow_eq, same]

end Relation

namespace Catalog

variable (dialect : Dialect τ ν)

/-- The constraints that hold once the table is changed. -/
def Admits (catalog : Catalog τ ν) (changed : Relation τ ν) : Prop :=
  changed.Fits dialect ∧ changed.KeysUnique dialect ∧
    ∀ relation ∈ (catalog.put changed).tables.rows, ∀ foreignKey ∈ relation.foreignKeys,
      (catalog.put changed).resolves dialect relation foreignKey = true

instance (catalog : Catalog τ ν) (changed : Relation τ ν) :
    Decidable (catalog.Admits dialect changed) :=
  inferInstanceAs (Decidable (_ ∧ _ ∧ ∀ relation ∈ (catalog.put changed).tables.rows,
    ∀ foreignKey ∈ relation.foreignKeys,
      (catalog.put changed).resolves dialect relation foreignKey = true))

def execute (catalog : Catalog τ ν) : Statement ν → Option (Catalog τ ν)
  | .insert table row => catalog.insertRow dialect table row
  | .update table key row =>
      catalog.alter table fun relation =>
        if relation.rows.any (relation.keyed dialect key) = true ∧
            catalog.Admits dialect (relation.setRow dialect key row) then
          some (relation.setRow dialect key row)
        else
          none
  | .delete table key =>
      catalog.alter table fun relation =>
        if relation.rows.any (relation.keyed dialect key) = true ∧
            catalog.Admits dialect (relation.removeRow dialect key) then
          some (relation.removeRow dialect key)
        else
          none

/-- `SELECT ... WHERE column = @value`. -/
def select (catalog : Catalog τ ν) (table : TableName) (column : String) (value : ν) :
    List (Row ν) :=
  match catalog.tables.find? table with
  | none => []
  | some relation => relation.rows.filter fun row =>
      (row column).map dialect.collate = some (dialect.collate value)

/-- The statements of one transaction, all of them or none. -/
def executeAll (catalog : Catalog τ ν) (statements : List (Statement ν)) :
    Option (Catalog τ ν) :=
  statements.foldlM (execute dialect) catalog

end Catalog

namespace Catalog.Consists

variable {catalog : Catalog τ ν} {schemas : List String} {relation : Relation τ ν}
  {front back : List (Relation τ ν)} {dialect : Dialect τ ν}

omit [DecidableEq ν] in
theorem alter_eq (consists : catalog.Consists schemas (front ++ relation :: back))
    (change : Relation τ ν → Option (Relation τ ν)) :
    catalog.alter relation.name change = (change relation).map catalog.put := by
  have member : relation ∈ front ++ relation :: back := by simp
  have found := consists.find? member
  unfold Catalog.alter
  rw [found]
  cases changes : change relation <;> simp [changes]

omit [DecidableEq ν] in
theorem alter_guarded (consists : catalog.Consists schemas (front ++ relation :: back))
    (guard : Relation τ ν → Prop) [DecidablePred guard]
    (changed : Relation τ ν → Relation τ ν) :
    (catalog.alter relation.name fun old =>
        if guard old then some (changed old) else none) =
      if guard relation then some (catalog.put (changed relation)) else none := by
  rw [consists.alter_eq, apply_ite (Option.map catalog.put)]
  rfl

omit [DecidableEq ν] in
theorem alter_of_absent {relations : List (Relation τ ν)}
    (consists : catalog.Consists schemas relations) {name : TableName}
    (absent : name ∉ relations.map Relation.name)
    (change : Relation τ ν → Option (Relation τ ν)) : catalog.alter name change = none := by
  unfold Catalog.alter
  simp [consists.find?_eq_none absent]

theorem select_eq (consists : catalog.Consists schemas (front ++ relation :: back))
    (column : String) (value : ν) :
    catalog.select dialect relation.name column value = relation.rows.filter fun row =>
      (row column).map dialect.collate = some (dialect.collate value) := by
  have member : relation ∈ front ++ relation :: back := by simp
  unfold Catalog.select
  rw [consists.find? member]

theorem insertRow_eq (consists : catalog.Consists schemas (front ++ relation :: back))
    (row : Row ν) :
    catalog.insertRow dialect relation.name row =
      if (relation.addRow row).Fits dialect ∧ (relation.addRow row).KeysUnique dialect ∧
          ∀ foreignKey ∈ relation.foreignKeys, (catalog.put (relation.addRow row)).resolves
            dialect (relation.addRow row) foreignKey = true then
        some (catalog.put (relation.addRow row))
      else
        none := by
  unfold Catalog.insertRow
  exact consists.alter_guarded _ fun relation => relation.addRow row

theorem insertRow_clip (consists : catalog.Consists schemas (front ++ relation :: back))
    (row : Row ν) :
    catalog.insertRow dialect relation.name (relation.clip row) =
      catalog.insertRow dialect relation.name row := by
  rw [consists.insertRow_eq, consists.insertRow_eq, Relation.addRow_clip]

theorem insertRow_eq_none (consists : catalog.Consists schemas (front ++ relation :: back))
    {row : Row ν} (misfits : ¬ (relation.addRow row).Fits dialect) :
    catalog.insertRow dialect relation.name row = none := by
  rw [consists.insertRow_eq, if_neg]
  intro guard
  exact misfits guard.1

theorem insertRow_of_absent {relations : List (Relation τ ν)}
    (consists : catalog.Consists schemas relations) {name : TableName}
    (absent : name ∉ relations.map Relation.name) (row : Row ν) :
    catalog.insertRow dialect name row = none :=
  consists.alter_of_absent absent _

theorem update_eq (consists : catalog.Consists schemas (front ++ relation :: back)) (key : ν)
    (row : Row ν) :
    catalog.execute dialect (.update relation.name key row) =
      if relation.rows.any (relation.keyed dialect key) = true ∧
          catalog.Admits dialect (relation.setRow dialect key row) then
        some (catalog.put (relation.setRow dialect key row))
      else
        none := by
  unfold Catalog.execute
  exact consists.alter_guarded _ fun relation => relation.setRow dialect key row

theorem delete_eq (consists : catalog.Consists schemas (front ++ relation :: back))
    (key : ν) :
    catalog.execute dialect (.delete relation.name key) =
      if relation.rows.any (relation.keyed dialect key) = true ∧
          catalog.Admits dialect (relation.removeRow dialect key) then
        some (catalog.put (relation.removeRow dialect key))
      else
        none := by
  unfold Catalog.execute
  exact consists.alter_guarded _ fun relation => relation.removeRow dialect key

end Catalog.Consists

end SecretServer.Schema
