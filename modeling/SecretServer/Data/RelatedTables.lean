import SecretServer.Data.Table
import Mathlib.Data.List.Forall2

namespace SecretServer.Data

/-! Two tables whose rows correspond one by one.  The operations on keys keep the
correspondence as long as related rows have the same key. -/

namespace Table

variable {ρ τ κ : Type} {key : ρ → κ} {other : τ → κ} {relation : ρ → τ → Prop}

def Related (relation : ρ → τ → Prop) (left : Table key) (right : Table other) :
    Prop :=
  List.Forall₂ relation left.rows right.rows

theorem Related.empty : Related relation (Table.empty : Table key)
    (Table.empty : Table other) :=
  .nil

theorem Related.of_mem {left : Table key} {right : Table other} {holds : ρ → Prop}
    (related : Related relation left right) (rows : ∀ row ∈ left.rows, holds row) :
    Related (fun row entry => relation row entry ∧ holds row) left right := by
  unfold Related at related ⊢
  generalize left.rows = front, right.rows = back at related rows ⊢
  induction related with
  | nil => exact .nil
  | cons first _ induction =>
      exact .cons ⟨first, rows _ List.mem_cons_self⟩
        (induction fun row member => rows row (List.mem_cons_of_mem _ member))

theorem Related.map_filter_eq {γ : Type} {left : Table key} {right : Table other}
    (related : Related relation left right) {keepLeft : ρ → Bool} {keepRight : τ → Bool}
    {showLeft : ρ → γ} {showRight : τ → γ}
    (sameKept : ∀ row entry, relation row entry → keepLeft row = keepRight entry)
    (sameShown : ∀ row entry, relation row entry → showLeft row = showRight entry) :
    (left.rows.filter keepLeft).map showLeft =
      (right.rows.filter keepRight).map showRight := by
  unfold Related at related
  generalize left.rows = rows, right.rows = entries at related
  induction related with
  | nil => rfl
  | @cons row entry rows entries first rest induction =>
      have kept := sameKept row entry first
      cases keeps : keepRight entry with
      | true =>
          rw [keeps] at kept
          rw [List.filter_cons_of_pos kept, List.filter_cons_of_pos keeps, List.map_cons,
            List.map_cons, sameShown row entry first, induction]
      | false =>
          rw [keeps] at kept
          rw [List.filter_cons_of_neg (by simp [kept]),
            List.filter_cons_of_neg (by simp [keeps]), induction]

section Keys

variable [DecidableEq κ] {left : Table key} {right : Table other}
  (sameKey : ∀ row entry, relation row entry → key row = other entry)

include sameKey

theorem Related.find? (related : Related relation left right) (value : κ) :
    Option.Rel relation (left.find? value) (right.find? value) := by
  unfold Related at related
  unfold Table.find?
  generalize left.rows = rows, right.rows = entries at related
  induction related with
  | nil => exact .none
  | @cons row entry rows entries first rest induction =>
      have keys := sameKey row entry first
      by_cases found : key row = value
      · have foundEntry : other entry = value := keys ▸ found
        rw [List.find?_cons_of_pos (by simpa using found),
          List.find?_cons_of_pos (by simpa using foundEntry)]
        exact .some first
      · have notEntry : other entry ≠ value := keys ▸ found
        rw [List.find?_cons_of_neg (by simpa using found),
          List.find?_cons_of_neg (by simpa using notEntry)]
        exact induction

theorem Related.find?_cases (related : Related relation left right) (value : κ) :
    (left.find? value = none ∧ right.find? value = none) ∨
      ∃ row entry, left.find? value = some row ∧ right.find? value = some entry ∧
        relation row entry := by
  have found := related.find? sameKey value
  generalize left.find? value = row, right.find? value = entry at found
  cases found with
  | none => exact .inl ⟨rfl, rfl⟩
  | @some row entry holds => exact .inr ⟨row, entry, rfl, rfl, holds⟩

theorem Related.delete (related : Related relation left right) (value : κ) :
    Related relation (left.delete value) (right.delete value) := by
  refine List.rel_filter ?_ related
  intro row entry holds
  dsimp only
  rw [sameKey row entry holds]

end Keys

theorem Related.insert [DecidableEq κ] {left : Table key} {right : Table other}
    (related : Related relation left right) {row : ρ} {entry : τ}
    (holds : relation row entry) (absentLeft : left.find? (key row) = none)
    (absentRight : right.find? (other entry) = none) :
    Related relation (left.insert row absentLeft) (right.insert entry absentRight) :=
  List.rel_append related (.cons holds .nil)

end Table

end SecretServer.Data
