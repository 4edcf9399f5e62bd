import SecretServer.Schema.Relational
import Mathlib.Data.List.Induction

namespace SecretServer.Schema

/-! A chain of migrations, and databases that go up and down it with rows inserted on
the way. -/

structure Migration (τ : Type) where
  id : String
  up : List (Operation τ)
  down : List (Operation τ)

structure Migrated (τ ν : Type) where
  applied : Nat
  catalog : Catalog τ ν

inductive Action (ν : Type) where
  | up
  | down
  | insert (table : TableName) (row : Row ν)

/-- The chain, below whose first `lowest` migrations no database goes. -/
structure Migrator (τ ν : Type) where
  dialect : Dialect τ ν
  migrations : List (Migration τ)
  lowest : Nat

namespace Migrator

variable {τ ν : Type} (migrator : Migrator τ ν)

def migration? (database : Migrated τ ν) : Action ν → Option (Migration τ)
  | .up => migrator.migrations[database.applied]?
  | .down =>
      if migrator.lowest < database.applied then
        migrator.migrations[database.applied - 1]?
      else
        none
  | .insert _ _ => none

variable [DecidableEq τ] [DecidableEq ν]

/-- One action: `none` when a statement of a migration is refused.  A refused row
leaves the database as it is, and so does a step off the chain. -/
def perform (database : Migrated τ ν) (action : Action ν) : Option (Migrated τ ν) :=
  match action, migrator.migration? database action with
  | .up, some migration =>
      (applyAll migrator.dialect database.catalog migration.up).map
        (Migrated.mk (database.applied + 1))
  | .down, some migration =>
      (applyAll migrator.dialect database.catalog migration.down).map
        (Migrated.mk (database.applied - 1))
  | .insert table row, _ =>
      some ⟨database.applied,
        (database.catalog.insertRow migrator.dialect table row).getD database.catalog⟩
  | _, none => some database

def run (start : Migrated τ ν) (actions : List (Action ν)) : Option (Migrated τ ν) :=
  actions.foldlM migrator.perform start

structure Visits (start : Migrated τ ν) (actions : List (Action ν))
    (before : Migrated τ ν) (action : Action ν) (after : Migrated τ ν) : Prop where
  performs : migrator.perform before action = some after
  split : ∃ earlier later, actions = earlier ++ action :: later ∧
    migrator.run start earlier = some before

variable {migrator} {start before after : Migrated τ ν} {actions : List (Action ν)}
  {action : Action ν}

theorem run_concat : migrator.run start (actions ++ [action]) =
    (migrator.run start actions).bind fun before => migrator.perform before action := by
  unfold run
  rw [List.foldlM_append]
  cases migrator.run start actions <;> simp [Option.bind_eq_bind]

theorem run_invariant {holds : Migrated τ ν → Prop}
    (step : ∀ before action, holds before →
      ∃ after, migrator.perform before action = some after ∧ holds after)
    (initial : holds start) (actions : List (Action ν)) :
    ∃ result, migrator.run start actions = some result ∧ holds result := by
  induction actions using List.reverseRecOn with
  | nil => exact ⟨start, rfl, initial⟩
  | append_singleton earlier action induction =>
      obtain ⟨before, reached, kept⟩ := induction
      obtain ⟨after, performs, keeps⟩ := step before action kept
      refine ⟨after, ?_, keeps⟩
      rw [run_concat, reached]
      exact performs

theorem Visits.invariant {holds : Migrated τ ν → Prop}
    (step : ∀ before action, holds before →
      ∃ after, migrator.perform before action = some after ∧ holds after)
    (initial : holds start) (visits : migrator.Visits start actions before action after) :
    holds before := by
  obtain ⟨earlier, later, -, reached⟩ := visits.split
  obtain ⟨result, found, kept⟩ := run_invariant step initial earlier
  rw [reached] at found
  exact Option.some.inj found ▸ kept

end Migrator

end SecretServer.Schema
