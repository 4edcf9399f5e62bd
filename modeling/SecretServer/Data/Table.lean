import Mathlib.Data.List.Nodup
import Mathlib.Logic.Function.Basic
import Mathlib.Data.List.Basic

namespace SecretServer.Data

/-! Tables with a primary key: finite lists of rows, no two of equal key. -/

structure Table {ρ κ : Type} (key : ρ → κ) where
  rows : List ρ
  keys_nodup : (rows.map key).Nodup

namespace Table

variable {ρ κ : Type} {key : ρ → κ}

@[ext] theorem ext {left right : Table key} (equal : left.rows = right.rows) :
    left = right := by
  cases left
  cases right
  subst equal
  rfl

def empty : Table key := ⟨[], List.nodup_nil⟩

theorem eq_of_mem (table : Table key) {left right : ρ}
    (leftMember : left ∈ table.rows) (rightMember : right ∈ table.rows)
    (equal : key left = key right) : left = right :=
  List.inj_on_of_nodup_map table.keys_nodup leftMember rightMember equal

theorem key_ne_of_split {table : Table key} {front back : List ρ} {row other : ρ}
    (rows : table.rows = front ++ row :: back) (member : other ∈ front ∨ other ∈ back) :
    key other ≠ key row := by
  have distinct := table.keys_nodup
  rw [rows, List.map_append, List.map_cons, List.nodup_append, List.nodup_cons] at distinct
  obtain ⟨-, ⟨notBack, -⟩, notFront⟩ := distinct
  rcases member with inFront | inBack
  · exact notFront (key other) (List.mem_map_of_mem inFront) (key row)
      List.mem_cons_self
  · intro same
    exact notBack (same ▸ List.mem_map_of_mem inBack)

variable [DecidableEq κ]

def find? (table : Table key) (value : κ) : Option ρ :=
  table.rows.find? fun row => key row = value

theorem key_of_find? {table : Table key} {value : κ} {row : ρ}
    (found : table.find? value = some row) : key row = value := by
  simpa using List.find?_some found

theorem mem_of_find? {table : Table key} {value : κ} {row : ρ}
    (found : table.find? value = some row) : row ∈ table.rows :=
  List.mem_of_find?_eq_some found

theorem find?_of_mem {table : Table key} {row : ρ} (member : row ∈ table.rows) :
    table.find? (key row) = some row := by
  cases found : table.find? (key row) with
  | none =>
      have absent := List.find?_eq_none.mp found row member
      simp at absent
  | some other =>
      exact congrArg some
        (table.eq_of_mem (mem_of_find? found) member (key_of_find? found))

theorem find?_eq_none_iff {table : Table key} {value : κ} :
    table.find? value = none ↔ ∀ row ∈ table.rows, key row ≠ value := by
  simp [find?, List.find?_eq_none]

def insert (table : Table key) (row : ρ) (absent : table.find? (key row) = none) :
    Table key where
  rows := table.rows ++ [row]
  keys_nodup := by
    rw [List.map_append, List.nodup_append]
    refine ⟨table.keys_nodup, List.nodup_singleton _, ?_⟩
    intro taken takenMember added addedMember equal
    obtain ⟨other, otherMember, rfl⟩ := List.mem_map.mp takenMember
    obtain rfl : added = key row := by simpa using addedMember
    exact find?_eq_none_iff.mp absent other otherMember equal

def insert? (table : Table key) (row : ρ) : Option (Table key) :=
  if absent : table.find? (key row) = none then
    some (table.insert row absent)
  else
    none

def delete (table : Table key) (value : κ) : Table key where
  rows := table.rows.filter fun row => key row ≠ value
  keys_nodup :=
    table.keys_nodup.sublist (List.filter_sublist.map key)

def update (table : Table key) (row : ρ) : Table key where
  rows := table.rows.map fun old => if key old = key row then row else old
  keys_nodup := by
    have keys : (table.rows.map fun old => if key old = key row then row else old).map
        key = table.rows.map key := by
      rw [List.map_map]
      apply List.map_congr_left
      intro old _
      by_cases same : key old = key row <;> simp [same]
    rw [keys]
    exact table.keys_nodup

theorem insert?_eq_some_iff {table result : Table key} {row : ρ} :
    table.insert? row = some result ↔
      ∃ absent : table.find? (key row) = none, table.insert row absent = result := by
  unfold insert?
  split
  next absent => simp [absent]
  next present => simp [present]

theorem insert?_eq_none_iff {table : Table key} {row : ρ} :
    table.insert? row = none ↔ table.find? (key row) ≠ none := by
  unfold insert?
  split
  next absent => simp [absent]
  next present => simp [present]

theorem mem_insert {table : Table key} {row other : ρ}
    (absent : table.find? (key row) = none) :
    other ∈ (table.insert row absent).rows ↔ other ∈ table.rows ∨ other = row := by
  simp [insert]

theorem mem_delete {table : Table key} {value : κ} {row : ρ} :
    row ∈ (table.delete value).rows ↔ row ∈ table.rows ∧ key row ≠ value := by
  simp [delete]

theorem find?_insert_self (table : Table key) (row : ρ)
    (absent : table.find? (key row) = none) :
    (table.insert row absent).find? (key row) = some row :=
  find?_of_mem ((mem_insert absent).mpr (.inr rfl))

theorem find?_insert_ne (table : Table key) (row : ρ)
    (absent : table.find? (key row) = none) {value : κ} (differs : key row ≠ value) :
    (table.insert row absent).find? value = table.find? value := by
  simp [find?, insert, List.find?_append, differs]

theorem find?_delete_self (table : Table key) (value : κ) :
    (table.delete value).find? value = none := by
  rw [find?_eq_none_iff]
  intro row member
  exact (mem_delete.mp member).2

theorem find?_delete_ne (table : Table key) {deleted value : κ}
    (differs : value ≠ deleted) :
    (table.delete deleted).find? value = table.find? value := by
  cases found : table.find? value with
  | none =>
      rw [find?_eq_none_iff] at found ⊢
      exact fun row member => found row (mem_delete.mp member).1
  | some row =>
      have keyed := key_of_find? found
      have kept : row ∈ (table.delete deleted).rows :=
        mem_delete.mpr ⟨mem_of_find? found, by rw [keyed]; exact differs⟩
      have read := find?_of_mem kept
      rwa [keyed] at read

theorem find?_update_ne (table : Table key) {row : ρ} {value : κ}
    (differs : key row ≠ value) : (table.update row).find? value = table.find? value := by
  have sameKey (old : ρ) :
      key (if key old = key row then row else old) = value ↔ key old = value := by
    by_cases replaced : key old = key row
    · rw [if_pos replaced, replaced]
    · rw [if_neg replaced]
  unfold find? update
  simp only [List.find?_map, Function.comp_def, sameKey]
  cases found : table.rows.find? fun old => key old = value with
  | none => rfl
  | some old =>
      have keyed : key old = value := by simpa using List.find?_some found
      have kept : key old ≠ key row := keyed ▸ differs.symm
      simp only [Option.map_some, if_neg kept]

theorem isSome_find?_iff {table : Table key} {value : κ} :
    (table.find? value).isSome ↔ ∃ row ∈ table.rows, key row = value := by
  simp [find?]

theorem filter_key_eq (table : Table key) (value : κ) :
    (table.rows.filter fun row => key row = value) = (table.find? value).toList := by
  cases found : table.find? value with
  | none =>
      rw [List.filter_eq_nil_iff.mpr]
      · rfl
      · intro row member
        simpa using find?_eq_none_iff.mp found row member
  | some row =>
      obtain ⟨front, back, rows⟩ := List.append_of_mem (mem_of_find? found)
      obtain rfl := key_of_find? found
      have others (part : List ρ) (within : ∀ other ∈ part, other ∈ front ∨ other ∈ back) :
          (part.filter fun other => key other = key row) = [] := by
        rw [List.filter_eq_nil_iff]
        intro other member
        simpa using key_ne_of_split rows (within other member)
      rw [rows, List.filter_append, List.filter_cons_of_pos (by simp),
        others front fun _ member => .inl member, others back fun _ member => .inr member]
      rfl

theorem mem_update {table : Table key} {row other : ρ}
    (present : (table.find? (key row)).isSome) :
    other ∈ (table.update row).rows ↔
      other = row ∨ other ∈ table.rows ∧ key other ≠ key row := by
  obtain ⟨old, found⟩ := Option.isSome_iff_exists.mp present
  have member := mem_of_find? found
  have keyed := key_of_find? found
  unfold update
  simp only [List.mem_map]
  constructor
  · intro changed
    obtain ⟨kept, keptMember, rfl⟩ := changed
    by_cases same : key kept = key row
    · rw [if_pos same]
      exact .inl rfl
    · rw [if_neg same]
      exact .inr ⟨keptMember, same⟩
  · intro either
    rcases either with rfl | ⟨otherMember, differs⟩
    · exact ⟨old, member, if_pos keyed⟩
    · exact ⟨other, otherMember, if_neg differs⟩

theorem forall_update_iff {table : Table key} {row : ρ} {holds : ρ → Prop}
    (present : (table.find? (key row)).isSome) (kept : ∀ old ∈ table.rows, holds old) :
    (∀ each ∈ (table.update row).rows, holds each) ↔ holds row := by
  constructor
  · intro all
    exact all row ((mem_update present).mpr (.inl rfl))
  · intro changed each member
    rcases (mem_update present).mp member with rfl | ⟨old, -⟩
    · exact changed
    · exact kept each old

theorem nodup_concat_iff {table : Table key} {row : ρ} :
    ((table.rows ++ [row]).map key).Nodup ↔ table.find? (key row) = none := by
  constructor
  · intro distinct
    rw [find?_eq_none_iff]
    intro other member same
    rw [List.map_append, List.nodup_append] at distinct
    obtain ⟨-, -, apart⟩ := distinct
    exact apart (key other) (List.mem_map_of_mem member) (key row) (by simp) same
  · intro absent
    exact (table.insert row absent).keys_nodup

theorem rows_update_of_split {table : Table key} {front back : List ρ} {row changed : ρ}
    (rows : table.rows = front ++ row :: back) (sameKey : key changed = key row) :
    (table.update changed).rows = front ++ changed :: back := by
  have kept (part : List ρ) (within : ∀ other ∈ part, other ∈ front ∨ other ∈ back) :
      (part.map fun old => if key old = key changed then changed else old) = part := by
    refine (List.map_congr_left ?_).trans (List.map_id part)
    intro other member
    exact if_neg (sameKey ▸ key_ne_of_split rows (within other member))
  unfold update
  simp only
  rw [rows, List.map_append, List.map_cons, if_pos sameKey.symm,
    kept front fun _ member => .inl member, kept back fun _ member => .inr member]

theorem rows_delete_of_split {table : Table key} {front back : List ρ} {row : ρ}
    (rows : table.rows = front ++ row :: back) :
    (table.delete (key row)).rows = front ++ back := by
  have kept (part : List ρ) (within : ∀ other ∈ part, other ∈ front ∨ other ∈ back) :
      (part.filter fun other => key other ≠ key row) = part := by
    rw [List.filter_eq_self]
    intro other member
    simpa using key_ne_of_split rows (within other member)
  unfold delete
  simp only
  rw [rows, List.filter_append, List.filter_cons_of_neg (by simp),
    kept front fun _ member => .inl member, kept back fun _ member => .inr member]

/-- What the rows show under their keys. -/
def view {ν : Type} (table : Table key) (shown : ρ → ν) (value : κ) : Option ν :=
  (table.find? value).map shown

variable {ν : Type} {shown : ρ → ν}

theorem view_insert (table : Table key) (row : ρ)
    (absent : table.find? (key row) = none) :
    (table.insert row absent).view shown =
      Function.update (table.view shown) (key row) (some (shown row)) := by
  funext value
  by_cases same : value = key row
  · rw [same, Function.update_self, view, find?_insert_self]
    rfl
  · rw [Function.update_of_ne same, view, find?_insert_ne _ _ _ (Ne.symm same), view]

theorem view_delete (table : Table key) (deleted : κ) :
    (table.delete deleted).view shown =
      Function.update (table.view shown) deleted none := by
  funext value
  by_cases same : value = deleted
  · rw [same, Function.update_self, view, find?_delete_self]
    rfl
  · rw [Function.update_of_ne same, view, find?_delete_ne _ same, view]

theorem view_update (table : Table key) (row : ρ)
    (present : (table.find? (key row)).isSome) :
    (table.update row).view shown =
      Function.update (table.view shown) (key row) (some (shown row)) := by
  funext value
  by_cases same : value = key row
  · obtain ⟨old, found⟩ := Option.isSome_iff_exists.mp present
    have changed : row ∈ (table.update row).rows :=
      List.mem_map.mpr ⟨old, mem_of_find? found, if_pos (key_of_find? found)⟩
    rw [same, Function.update_self, view, find?_of_mem changed]
    rfl
  · rw [Function.update_of_ne same, view, find?_update_ne table (Ne.symm same), view]

end Table

end SecretServer.Data
