import SecretServer.Schema.Relational
import Mathlib.Data.List.Forall2

namespace SecretServer.Schema

open Data

/-! One rule for each statement: under its precondition on the tables there are, it
applies, and the rule says which tables there are afterwards. -/

variable {τ ν : Type}

structure Catalog.Consists (catalog : Catalog τ ν) (schemas : List String)
    (relations : List (Relation τ ν)) : Prop where
  schemas_eq : catalog.schemas = schemas
  rows_eq : catalog.tables.rows = relations

/-- The statements apply, to a database of which `post` holds afterwards. -/
def Reaches [DecidableEq τ] [DecidableEq ν] (dialect : Dialect τ ν)
    (catalog : Catalog τ ν) (operations : List (Operation τ))
    (post : Catalog τ ν → Prop) : Prop :=
  ∃ result, applyAll dialect catalog operations = some result ∧ post result

def Relation.SameDefinition (first second : Relation τ ν) : Prop :=
  ∃ rows, second = { first with rows }

theorem Relation.SameDefinition.refl (relation : Relation τ ν) :
    relation.SameDefinition relation :=
  ⟨relation.rows, rfl⟩

theorem Reaches.nil [DecidableEq τ] [DecidableEq ν] {dialect : Dialect τ ν}
    {catalog : Catalog τ ν} {post : Catalog τ ν → Prop} (holds : post catalog) :
    Reaches dialect catalog [] post :=
  ⟨catalog, rfl, holds⟩

theorem Reaches.cons [DecidableEq τ] [DecidableEq ν] {dialect : Dialect τ ν}
    {catalog next : Catalog τ ν} {operation : Operation τ}
    {operations : List (Operation τ)} {post : Catalog τ ν → Prop}
    (applies : operation.apply dialect catalog = some next)
    (reaches : Reaches dialect next operations post) :
    Reaches dialect catalog (operation :: operations) post := by
  obtain ⟨result, applied, holds⟩ := reaches
  refine ⟨result, ?_, holds⟩
  unfold applyAll at applied ⊢
  rw [List.foldlM_cons, applies]
  exact applied

namespace Catalog.Consists

variable {catalog : Catalog τ ν} {schemas : List String} {relation changed : Relation τ ν}

theorem empty : (Catalog.empty : Catalog τ ν).Consists [] [] := ⟨rfl, rfl⟩

theorem unique {relations others : List (Relation τ ν)} {later : List String}
    (consists : catalog.Consists schemas relations)
    (other : catalog.Consists later others) : relations = others :=
  consists.rows_eq.symm.trans other.rows_eq

theorem find? {relations : List (Relation τ ν)}
    (consists : catalog.Consists schemas relations) (member : relation ∈ relations) :
    catalog.tables.find? relation.name = some relation := by
  rw [← consists.rows_eq] at member
  exact Table.find?_of_mem member

theorem find?_eq_none {relations : List (Relation τ ν)}
    (consists : catalog.Consists schemas relations) {name : TableName}
    (absent : name ∉ relations.map Relation.name) :
    catalog.tables.find? name = none := by
  rw [Table.find?_eq_none_iff, consists.rows_eq]
  intro other member same
  exact absent (List.mem_map.mpr ⟨other, member, same⟩)

theorem objectNames {relations : List (Relation τ ν)}
    (consists : catalog.Consists schemas relations) (schema : String) :
    catalog.objectNames schema =
      (relations.filter fun relation => relation.name.schema = schema).flatMap
        fun relation =>
          relation.name.name :: relation.primaryKey.name :: relation.foreignKeyNames := by
  rw [← consists.rows_eq]
  rfl

variable {front back : List (Relation τ ν)}

theorem put (consists : catalog.Consists schemas (front ++ relation :: back))
    (sameName : changed.name = relation.name) :
    (catalog.put changed).Consists schemas (front ++ changed :: back) where
  schemas_eq := consists.schemas_eq
  rows_eq := Table.rows_update_of_split consists.rows_eq sameName

theorem alter (consists : catalog.Consists schemas (front ++ relation :: back))
    {change : Relation τ ν → Option (Relation τ ν)}
    (changes : change relation = some changed) :
    catalog.alter relation.name change = some (catalog.put changed) := by
  have member : relation ∈ front ++ relation :: back := by simp
  have found := consists.find? member
  simp [Catalog.alter, found, changes]

section Statements

variable (front) [DecidableEq τ] [DecidableEq ν] {dialect : Dialect τ ν}
  {operations : List (Operation τ)} {post : Catalog τ ν → Prop}

theorem ensureSchema {relations : List (Relation τ ν)}
    (consists : catalog.Consists schemas relations) {name : String}
    (continues : ∀ (next : Catalog τ ν) (extended : List String), name ∈ extended →
      next.Consists extended relations → Reaches dialect next operations post) :
    Reaches dialect catalog (.ensureSchema name :: operations) post := by
  by_cases known : name ∈ catalog.schemas
  · exact .cons (if_pos known) (continues catalog _ known ⟨rfl, consists.rows_eq⟩)
  · exact .cons (if_neg known) (continues _ _ (by simp) ⟨rfl, consists.rows_eq⟩)

theorem createTable {relations : List (Relation τ ν)}
    (consists : catalog.Consists schemas relations) {name : TableName}
    {columns : List (Column τ)} {primaryKey : PrimaryKey}
    (hasSchema : name.schema ∈ schemas)
    (free : name.name ∉ catalog.objectNames name.schema)
    (freeKey : primaryKey.name ∉ catalog.objectNames name.schema)
    (distinct : primaryKey.name ≠ name.name)
    (distinctColumns : (columns.map Column.name).Nodup)
    (keyed : ∃ column ∈ columns, column.name = primaryKey.column ∧
      column.nullable = false ∧ dialect.indexable column.type = true)
    (continues : ∀ next : Catalog τ ν,
      next.Consists schemas (relations ++ [Relation.created name columns primaryKey]) →
        Reaches dialect next operations post) :
    Reaches dialect catalog (.createTable name columns primaryKey :: operations) post := by
  have absent : catalog.tables.find?
      (Relation.created (ν := ν) name columns primaryKey).name = none := by
    rw [Table.find?_eq_none_iff]
    intro other member same
    apply free
    rw [Catalog.objectNames, List.mem_flatMap]
    have sameName : other.name = name := same
    exact ⟨other, List.mem_filter.mpr ⟨member, by simp [sameName]⟩, by simp [sameName]⟩
  have inserted := Table.insert?_eq_some_iff.mpr ⟨absent, rfl⟩
  rw [← consists.schemas_eq] at hasSchema
  have applies : Operation.apply dialect catalog (.createTable name columns primaryKey) =
      some ⟨catalog.schemas, catalog.tables.insert _ absent⟩ := by
    rw [Operation.apply, if_pos ⟨hasSchema, free, freeKey, distinct, distinctColumns, keyed⟩,
      inserted, Option.map_some]
  refine .cons applies (continues _ ⟨consists.schemas_eq, ?_⟩)
  rw [← consists.rows_eq]
  rfl

/-- A schema of its own and the first table of an empty database. -/
theorem createFirst (consists : catalog.Consists schemas []) {schema table : String}
    {columns : List (Column τ)} {primaryKey : PrimaryKey}
    (distinct : primaryKey.name ≠ table)
    (distinctColumns : (columns.map Column.name).Nodup)
    (keyed : ∃ column ∈ columns, column.name = primaryKey.column ∧
      column.nullable = false ∧ dialect.indexable column.type = true)
    (continues : ∀ (next : Catalog τ ν) (extended : List String),
      next.Consists extended [Relation.created ⟨schema, table⟩ columns primaryKey] →
        Reaches dialect next operations post) :
    Reaches dialect catalog (.ensureSchema schema ::
      .createTable ⟨schema, table⟩ columns primaryKey :: operations) post := by
  apply consists.ensureSchema
  intro catalog extended known consists
  have free : ∀ object, object ∉ catalog.objectNames schema := by
    intro object member
    rw [consists.objectNames] at member
    cases member
  exact consists.createTable known (free _) (free _) distinct distinctColumns keyed
    fun next created => continues next extended created

theorem dropTable (consists : catalog.Consists schemas (front ++ relation :: back))
    (unreferenced : ∀ other ∈ front ++ relation :: back, other.name ≠ relation.name →
      ∀ foreignKey ∈ other.foreignKeys, foreignKey.principal ≠ relation.name)
    (continues : ∀ next : Catalog τ ν, next.Consists schemas (front ++ back) →
      Reaches dialect next operations post) :
    Reaches dialect catalog (.dropTable relation.name :: operations) post := by
  have member : relation ∈ front ++ relation :: back := by simp
  have found : (catalog.tables.find? relation.name).isSome := by
    rw [consists.find? member]
    rfl
  have free : ¬ catalog.Referenced relation.name := by
    intro referenced
    obtain ⟨other, member, differs, foreignKey, belongs, refers⟩ := referenced
    rw [consists.rows_eq] at member
    exact unreferenced other member differs foreignKey belongs refers
  exact .cons (if_pos ⟨found, free⟩)
    (continues _ ⟨consists.schemas_eq, Table.rows_delete_of_split consists.rows_eq⟩)

theorem alterTable (consists : catalog.Consists schemas (front ++ relation :: back))
    {operation : Operation τ} {change : Relation τ ν → Option (Relation τ ν)}
    (alters : operation.apply dialect catalog = catalog.alter relation.name change)
    (changes : change relation = some changed) (sameName : changed.name = relation.name)
    (continues : ∀ next : Catalog τ ν, next.Consists schemas (front ++ changed :: back) →
      Reaches dialect next operations post) :
    Reaches dialect catalog (operation :: operations) post :=
  .cons (alters.trans (consists.alter changes)) (continues _ (consists.put sameName))

theorem addColumn (consists : catalog.Consists schemas (front ++ relation :: back))
    {column : Column τ} (absent : column.name ∉ relation.columnNames)
    (nullable : column.nullable = true)
    (continues : ∀ next : Catalog τ ν,
      next.Consists schemas (front ++ relation.withColumn column :: back) →
        Reaches dialect next operations post) :
    Reaches dialect catalog (.addColumn relation.name column :: operations) post :=
  consists.alterTable front rfl (if_pos ⟨absent, .inl nullable⟩) rfl continues

theorem dropColumn (consists : catalog.Consists schemas (front ++ relation :: back))
    {column : String} (present : column ∈ relation.columnNames)
    (unconstrained : column ∉ relation.constrainedColumns)
    (continues : ∀ next : Catalog τ ν,
      next.Consists schemas (front ++ relation.withoutColumn column :: back) →
        Reaches dialect next operations post) :
    Reaches dialect catalog (.dropColumn relation.name column :: operations) post :=
  consists.alterTable front rfl (if_pos ⟨present, unconstrained⟩) rfl continues

theorem createIndex (consists : catalog.Consists schemas (front ++ relation :: back))
    {index : Index} (free : index.name ∉ relation.indexNames)
    (indexed : ∃ column ∈ relation.columns,
      column.name = index.column ∧ dialect.indexable column.type = true)
    (unique : index.unique = true →
      (dialect.columnValues index.column relation.rows).Nodup)
    (continues : ∀ next : Catalog τ ν,
      next.Consists schemas (front ++ relation.withIndex index :: back) →
        Reaches dialect next operations post) :
    Reaches dialect catalog (.createIndex relation.name index :: operations) post :=
  consists.alterTable front rfl (if_pos ⟨free, indexed, unique⟩) rfl continues

theorem dropIndex (consists : catalog.Consists schemas (front ++ relation :: back))
    {index : String} (present : index ∈ relation.indexes.map Index.name)
    (unneeded : ¬ catalog.Enforces relation index)
    (continues : ∀ next : Catalog τ ν,
      next.Consists schemas (front ++ relation.withoutIndex index :: back) →
        Reaches dialect next operations post) :
    Reaches dialect catalog (.dropIndex relation.name index :: operations) post :=
  consists.alterTable front rfl (if_pos ⟨present, unneeded⟩) rfl continues

theorem addForeignKey (consists : catalog.Consists schemas (front ++ relation :: back))
    {foreignKey : ForeignKey}
    (free : foreignKey.name ∉ catalog.objectNames relation.name.schema)
    (connects : catalog.connects relation foreignKey = true)
    (resolves : catalog.resolves dialect relation foreignKey = true)
    (continues : ∀ next : Catalog τ ν,
      next.Consists schemas (front ++ relation.withForeignKey foreignKey :: back) →
        Reaches dialect next operations post) :
    Reaches dialect catalog (.addForeignKey relation.name foreignKey :: operations) post :=
  consists.alterTable front rfl (if_pos ⟨free, connects, resolves⟩) rfl continues

theorem dropForeignKey (consists : catalog.Consists schemas (front ++ relation :: back))
    {foreignKey : String} (present : foreignKey ∈ relation.foreignKeyNames)
    (continues : ∀ next : Catalog τ ν,
      next.Consists schemas (front ++ relation.withoutForeignKey foreignKey :: back) →
        Reaches dialect next operations post) :
    Reaches dialect catalog (.dropForeignKey relation.name foreignKey :: operations) post :=
  consists.alterTable front rfl (if_pos present) rfl continues

end Statements

theorem insertRow [DecidableEq ν] {relations : List (Relation τ ν)}
    (consists : catalog.Consists schemas relations) (dialect : Dialect τ ν)
    (name : TableName) (row : Row ν) :
    ∃ extended, ((catalog.insertRow dialect name row).getD catalog).Consists schemas extended ∧
      List.Forall₂ Relation.SameDefinition relations extended := by
  have same (part : List (Relation τ ν)) : List.Forall₂ Relation.SameDefinition part part :=
    List.forall₂_same.mpr fun relation _ => .refl relation
  cases inserted : catalog.insertRow dialect name row with
  | none => exact ⟨relations, consists, same relations⟩
  | some next =>
      unfold Catalog.insertRow Catalog.alter at inserted
      simp only [Option.bind_eq_bind, Option.bind_eq_some_iff, Option.ite_none_right_eq_some,
        Option.some.injEq] at inserted
      obtain ⟨relation, found, _, ⟨-, rfl⟩, rfl⟩ := inserted
      have member := Table.mem_of_find? found
      rw [consists.rows_eq] at member
      obtain ⟨front, back, rfl⟩ := List.append_of_mem member
      exact ⟨_, consists.put rfl,
        List.rel_append (same front) (.cons ⟨_, rfl⟩ (same back))⟩

end Catalog.Consists

end SecretServer.Schema
