import SecretServer.Database.ChangeTracker
import SecretServer.Migrations.EntityRows

namespace SecretServer.Migrations

open Text Schema Database Concurrency

/-! The entities and the checks that saving makes on them, against the migrated tables
and the statements that reach them. -/

structure Sound (db : Db) : Prop where
  labelled : ∀ secret ∈ db.secrets.rows, secret.ttl ≠ none
  owned : ∀ secret ∈ db.secrets.rows, db.ReferencesUser secret.userId
  narrow : ∀ user ∈ db.users.rows, user.authProviderId.length ≤ Db.authProviderIdWidth
  uniqueLogins : db.UniqueLogins

structure Stores (collation : Utf16 → Utf16) (catalog : Catalog ColumnType SqlValue)
    (db : Db) : Prop where
  collation_eq : db.collation = collation
  sound : Sound db
  consists : ∃ schemas,
    catalog.Consists schemas [secretsTable db.secrets.rows, usersTable db.users.rows]

section Constraints

variable {collation : Utf16 → Utf16} {catalog : Catalog ColumnType SqlValue}
  {schemas : List String} {secrets changedSecrets : List Secret}
  {users changedUsers : List User} {db : Db}

theorem referencesUser_iff {userId : Option Guid} :
    db.ReferencesUser userId ↔ ∀ id ∈ userId, ∃ user ∈ db.users.rows, user.id = id := by
  unfold Db.ReferencesUser
  apply forall₂_congr
  intro id _
  rw [Option.isSome_iff_ne_none, Ne, Data.Table.find?_eq_none_iff]
  simp

theorem forall_foreignKeys_secretsTable {holds : ForeignKey → Prop} :
    (∀ foreignKey ∈ (secretsTable secrets).foreignKeys, holds foreignKey) ↔
      holds ownerKey := by
  change (∀ foreignKey ∈ [ownerKey], holds foreignKey) ↔ _
  rw [List.forall_mem_singleton]

theorem forall_foreignKeys_usersTable {holds : ForeignKey → Prop} :
    (∀ foreignKey ∈ (usersTable users).foreignKeys, holds foreignKey) ↔ True := by
  change (∀ foreignKey ∈ [], holds foreignKey) ↔ _
  simp

theorem consists_put_secrets (changedSecrets : List Secret)
    (consists : catalog.Consists schemas [secretsTable secrets, usersTable users]) :
    (catalog.put (secretsTable changedSecrets)).Consists schemas
      [secretsTable changedSecrets, usersTable users] := by
  have split : catalog.Consists schemas ([] ++ secretsTable secrets :: [usersTable users]) :=
    consists
  exact split.put rfl

theorem consists_put_users (changedUsers : List User)
    (consists : catalog.Consists schemas [secretsTable secrets, usersTable users]) :
    (catalog.put (usersTable changedUsers)).Consists schemas
      [secretsTable secrets, usersTable changedUsers] := by
  have split : catalog.Consists schemas ([secretsTable secrets] ++ usersTable users :: []) :=
    consists
  exact split.put rfl

theorem admits_secrets_iff
    (consists : catalog.Consists schemas [secretsTable secrets, usersTable users]) :
    catalog.Admits (sqlServer collation) (secretsTable changedSecrets) ↔
      (∀ secret ∈ changedSecrets, secret.ttl ≠ none) ∧
      (changedSecrets.map Secret.id).Nodup ∧
      ∀ secret ∈ changedSecrets, ∀ id ∈ secret.userId, ∃ user ∈ users, user.id = id := by
  have changed := consists_put_secrets changedSecrets consists
  unfold Catalog.Admits
  rw [secretsTable_fits_iff, secretsTable_keysUnique_iff, changed.rows_eq,
    List.forall_mem_cons, List.forall_mem_singleton, forall_foreignKeys_secretsTable,
    forall_foreignKeys_usersTable, resolves_iff changed, and_true]

theorem usersUnique_iff :
    ((users.map User.id).Nodup ∧ (users.map fun user => collation user.authProviderId).Nodup) ↔
      ((users.map User.id).Nodup ∧ ∀ user ∈ users, ∀ other ∈ users,
        collation user.authProviderId = collation other.authProviderId → user = other) := by
  apply and_congr_right
  intro distinct
  exact List.nodup_map_iff_inj_on distinct.of_map

theorem admits_users_iff
    (consists : catalog.Consists schemas [secretsTable secrets, usersTable users]) :
    catalog.Admits (sqlServer collation) (usersTable changedUsers) ↔
      (∀ user ∈ changedUsers, user.authProviderId.length ≤ Db.authProviderIdWidth) ∧
      ((changedUsers.map User.id).Nodup ∧
        ∀ user ∈ changedUsers, ∀ other ∈ changedUsers,
          collation user.authProviderId = collation other.authProviderId → user = other) ∧
      ∀ secret ∈ secrets, ∀ id ∈ secret.userId, ∃ user ∈ changedUsers, user.id = id := by
  have changed := consists_put_users changedUsers consists
  unfold Catalog.Admits
  rw [usersTable_fits_iff, usersTable_keysUnique_iff, usersUnique_iff, changed.rows_eq,
    List.forall_mem_cons, List.forall_mem_singleton, forall_foreignKeys_secretsTable,
    forall_foreignKeys_usersTable, resolves_iff changed, and_true]

theorem insertRow_secrets
    (consists : catalog.Consists schemas [secretsTable secrets, usersTable users])
    (secret : Secret) :
    catalog.insertRow (sqlServer collation) (secretsTable secrets).name (secretRow secret) =
      if catalog.Admits (sqlServer collation) (secretsTable (secrets ++ [secret])) then
        some (catalog.put (secretsTable (secrets ++ [secret])))
      else
        none := by
  have split : catalog.Consists schemas ([] ++ secretsTable secrets :: [usersTable users]) :=
    consists
  have changed := consists_put_secrets (secrets ++ [secret]) consists
  rw [split.insertRow_eq, secretsTable_addRow]
  apply if_congr _ rfl rfl
  unfold Catalog.Admits
  rw [changed.rows_eq, List.forall_mem_cons, List.forall_mem_singleton,
    forall_foreignKeys_secretsTable, forall_foreignKeys_secretsTable,
    forall_foreignKeys_usersTable, and_true]

/-- No user goes away with an insert, so the owners need no check. -/
theorem insertRow_users
    (consists : catalog.Consists schemas [secretsTable secrets, usersTable users])
    (owned : ∀ secret ∈ secrets, ∀ id ∈ secret.userId, ∃ user ∈ users, user.id = id)
    (user : User) :
    catalog.insertRow (sqlServer collation) (usersTable users).name (userRow user) =
      if catalog.Admits (sqlServer collation) (usersTable (users ++ [user])) then
        some (catalog.put (usersTable (users ++ [user])))
      else
        none := by
  have split : catalog.Consists schemas ([secretsTable secrets] ++ usersTable users :: []) :=
    consists
  have kept : ∀ secret ∈ secrets, ∀ id ∈ secret.userId,
      ∃ owner ∈ users ++ [user], owner.id = id := by
    intro secret member id owner
    obtain ⟨known, knownMember, named⟩ := owned secret member id owner
    exact ⟨known, List.mem_append_left _ knownMember, named⟩
  rw [split.insertRow_eq, usersTable_addRow]
  apply if_congr _ rfl rfl
  rw [admits_users_iff consists, usersTable_fits_iff, usersTable_keysUnique_iff,
    usersUnique_iff, forall_foreignKeys_usersTable, and_true]
  exact and_congr_right' (and_iff_left kept).symm

section Tables

variable {secrets : Data.Table Secret.id} {users : Data.Table User.id}
  (consists : catalog.Consists schemas [secretsTable secrets.rows, usersTable users.rows])

include consists

theorem update_secrets (secret : Secret) :
    catalog.execute (sqlServer collation)
        (.update ⟨"secret", "Secret"⟩ (.guid secret.id) (secretRow secret)) =
      if (secrets.find? secret.id).isSome ∧
          catalog.Admits (sqlServer collation) (secretsTable (secrets.update secret).rows) then
        some (catalog.put (secretsTable (secrets.update secret).rows))
      else
        none := by
  have split : catalog.Consists schemas
      ([] ++ secretsTable secrets.rows :: [usersTable users.rows]) := consists
  apply (split.update_eq (.guid secret.id) (secretRow secret)).trans
  rw [secretsTable_setRow]
  exact if_congr (and_congr_left'
    ((secretsTable_any_keyed _).trans Data.Table.isSome_find?_iff.symm)) rfl rfl

theorem delete_secrets (id : Guid) :
    catalog.execute (sqlServer collation) (.delete ⟨"secret", "Secret"⟩ (.guid id)) =
      if (secrets.find? id).isSome ∧
          catalog.Admits (sqlServer collation) (secretsTable (secrets.delete id).rows) then
        some (catalog.put (secretsTable (secrets.delete id).rows))
      else
        none := by
  have split : catalog.Consists schemas
      ([] ++ secretsTable secrets.rows :: [usersTable users.rows]) := consists
  apply (split.delete_eq (.guid id)).trans
  rw [secretsTable_removeRow]
  exact if_congr (and_congr_left'
    ((secretsTable_any_keyed _).trans Data.Table.isSome_find?_iff.symm)) rfl rfl

theorem update_users (user : User) :
    catalog.execute (sqlServer collation)
        (.update ⟨"users", "User"⟩ (.guid user.id) (userRow user)) =
      if (users.find? user.id).isSome ∧
          catalog.Admits (sqlServer collation) (usersTable (users.update user).rows) then
        some (catalog.put (usersTable (users.update user).rows))
      else
        none := by
  have split : catalog.Consists schemas
      ([secretsTable secrets.rows] ++ usersTable users.rows :: []) := consists
  apply (split.update_eq (.guid user.id) (userRow user)).trans
  rw [usersTable_setRow]
  exact if_congr (and_congr_left'
    ((usersTable_any_keyed _).trans Data.Table.isSome_find?_iff.symm)) rfl rfl

theorem delete_users (id : Guid) :
    catalog.execute (sqlServer collation) (.delete ⟨"users", "User"⟩ (.guid id)) =
      if (users.find? id).isSome ∧
          catalog.Admits (sqlServer collation) (usersTable (users.delete id).rows) then
        some (catalog.put (usersTable (users.delete id).rows))
      else
        none := by
  have split : catalog.Consists schemas
      ([secretsTable secrets.rows] ++ usersTable users.rows :: []) := consists
  apply (split.delete_eq (.guid id)).trans
  rw [usersTable_removeRow]
  exact if_congr (and_congr_left'
    ((usersTable_any_keyed _).trans Data.Table.isSome_find?_iff.symm)) rfl rfl

end Tables

end Constraints

/-! What the database keeps when the rows of one table change within the constraints. -/

namespace Stores

variable {collation : Utf16 → Utf16} {catalog : Catalog ColumnType SqlValue} {db : Db}

theorem owners (stores : Stores collation catalog db) :
    ∀ secret ∈ db.secrets.rows, ∀ id ∈ secret.userId,
      ∃ user ∈ db.users.rows, user.id = id := by
  intro secret member
  exact referencesUser_iff.mp (stores.sound.owned secret member)

theorem withSecrets (stores : Stores collation catalog db) {secrets : Data.Table Secret.id}
    (admits : catalog.Admits (sqlServer collation) (secretsTable secrets.rows)) :
    Stores collation (catalog.put (secretsTable secrets.rows)) (db.withSecrets secrets) := by
  obtain ⟨schemas, consists⟩ := stores.consists
  obtain ⟨labelled, -, owned⟩ := (admits_secrets_iff consists).mp admits
  exact {
    collation_eq := stores.collation_eq
    sound := {
      labelled := labelled
      owned := fun secret member => referencesUser_iff.mpr (owned secret member)
      narrow := stores.sound.narrow
      uniqueLogins := stores.sound.uniqueLogins }
    consists := ⟨schemas, consists_put_secrets _ consists⟩ }

theorem withUsers (stores : Stores collation catalog db) {users : Data.Table User.id}
    (admits : catalog.Admits (sqlServer collation) (usersTable users.rows)) :
    Stores collation (catalog.put (usersTable users.rows)) (db.withUsers users) := by
  obtain ⟨schemas, consists⟩ := stores.consists
  obtain ⟨narrow, ⟨-, logins⟩, owned⟩ := (admits_users_iff consists).mp admits
  exact {
    collation_eq := stores.collation_eq
    sound := {
      labelled := stores.sound.labelled
      owned := fun secret member => referencesUser_iff.mpr (owned secret member)
      narrow := narrow
      uniqueLogins := by
        intro user member other otherMember same
        rw [Db.collation_withUsers, stores.collation_eq] at same
        exact logins user member other otherMember same }
    consists := ⟨schemas, consists_put_users _ consists⟩ }

end Stores

/-- The change is saved in both or refused in both. -/
def Agrees (collation : Utf16 → Utf16) :
    Except Exception Db → Option (Catalog ColumnType SqlValue) → Prop
  | .ok db, some catalog => Stores collation catalog db
  | .error _, none => True
  | _, _ => False

section Saves

variable {collation : Utf16 → Utf16} {catalog changed : Catalog ColumnType SqlValue} {db : Db}

theorem agrees_of_iff {outcome : Except Exception Db} {guard : Prop} [Decidable guard]
    (accepts : ∀ next, outcome = .ok next → guard ∧ Stores collation changed next)
    (saves : guard → ∃ next, outcome = .ok next) :
    Agrees collation outcome (if guard then some changed else none) := by
  cases outcome with
  | ok next =>
      obtain ⟨holds, stores⟩ := accepts next rfl
      rw [if_pos holds]
      exact stores
  | error exception =>
      rw [if_neg]
      · trivial
      · intro holds
        obtain ⟨next, saved⟩ := saves holds
        cases saved

theorem forall_mem_concat_iff {α : Type} {holds : α → Prop} {rows : List α} {row : α}
    (kept : ∀ old ∈ rows, holds old) : (∀ each ∈ rows ++ [row], holds each) ↔ holds row := by
  rw [List.forall_mem_append, List.forall_mem_singleton, and_iff_right kept]

theorem Stores.admits_insertSecret_iff (stores : Stores collation catalog db)
    {secret : Secret} :
    catalog.Admits (sqlServer collation) (secretsTable (db.secrets.rows ++ [secret])) ↔
      secret.ttl ≠ none ∧ db.secrets.find? secret.id = none ∧
        db.ReferencesUser secret.userId := by
  obtain ⟨schemas, consists⟩ := stores.consists
  rw [admits_secrets_iff consists, forall_mem_concat_iff stores.sound.labelled,
    Data.Table.nodup_concat_iff, forall_mem_concat_iff stores.owners, referencesUser_iff]

theorem Stores.admits_updateSecret_iff (stores : Stores collation catalog db) (secret : Secret)
    (present : (db.secrets.find? secret.id).isSome) :
    catalog.Admits (sqlServer collation) (secretsTable (db.secrets.update secret).rows) ↔
      secret.ttl ≠ none ∧ db.ReferencesUser secret.userId := by
  obtain ⟨schemas, consists⟩ := stores.consists
  rw [admits_secrets_iff consists, and_iff_right (db.secrets.update _).keys_nodup,
    Data.Table.forall_update_iff present stores.sound.labelled,
    Data.Table.forall_update_iff present stores.owners, referencesUser_iff]

theorem Stores.admits_deleteSecret (stores : Stores collation catalog db) (id : Guid) :
    catalog.Admits (sqlServer collation) (secretsTable (db.secrets.delete id).rows) := by
  obtain ⟨schemas, consists⟩ := stores.consists
  rw [admits_secrets_iff consists]
  refine ⟨?_, (db.secrets.delete id).keys_nodup, ?_⟩
  · intro secret member
    exact stores.sound.labelled secret (Data.Table.mem_delete.mp member).1
  · intro secret member
    exact stores.owners secret (Data.Table.mem_delete.mp member).1

theorem Stores.admits_insertUser_iff (stores : Stores collation catalog db) {user : User} :
    catalog.Admits (sqlServer collation) (usersTable (db.users.rows ++ [user])) ↔
      user.authProviderId.length ≤ Db.authProviderIdWidth ∧
        db.users.find? user.id = none ∧
        db.findByAuthProviderId? user.authProviderId = none := by
  obtain ⟨schemas, consists⟩ := stores.consists
  obtain rfl := stores.collation_eq
  rw [admits_users_iff consists, forall_mem_concat_iff stores.sound.narrow,
    Data.Table.nodup_concat_iff, Db.findByAuthProviderId?_eq_none_iff]
  constructor
  · intro admits
    obtain ⟨narrow, ⟨absent, unique⟩, -⟩ := admits
    refine ⟨narrow, absent, ?_⟩
    intro known member same
    obtain rfl := unique known (List.mem_append_left _ member) user (by simp) same
    exact Data.Table.find?_eq_none_iff.mp absent known member rfl
  · intro free
    obtain ⟨narrow, absent, unknown⟩ := free
    refine ⟨narrow, ⟨absent, ?_⟩, ?_⟩
    · intro first firstMember second secondMember same
      rcases List.mem_append.mp firstMember with firstOld | firstNew
      · rcases List.mem_append.mp secondMember with secondOld | secondNew
        · exact stores.sound.uniqueLogins first firstOld second secondOld same
        · obtain rfl := List.mem_singleton.mp secondNew
          exact absurd same (unknown first firstOld)
      · obtain rfl := List.mem_singleton.mp firstNew
        rcases List.mem_append.mp secondMember with secondOld | secondNew
        · exact absurd same.symm (unknown second secondOld)
        · exact (List.mem_singleton.mp secondNew).symm
    · intro secret member id owner
      obtain ⟨known, knownMember, named⟩ := stores.owners secret member id owner
      exact ⟨known, List.mem_append_left _ knownMember, named⟩

theorem Stores.unique_update_iff (stores : Stores collation catalog db) {user : User}
    (present : (db.users.find? user.id).isSome) :
    (∀ first ∈ (db.users.update user).rows, ∀ second ∈ (db.users.update user).rows,
        collation first.authProviderId = collation second.authProviderId → first = second) ↔
      ∀ other ∈ db.findByAuthProviderId? user.authProviderId, other.id = user.id := by
  obtain rfl := stores.collation_eq
  constructor
  · intro unique other found
    obtain ⟨member, same⟩ := Db.findByAuthProviderId?_eq_some found
    by_contra differs
    have kept := (Data.Table.mem_update present).mpr (.inr ⟨member, differs⟩)
    have changed := (Data.Table.mem_update present).mpr (.inl rfl)
    exact differs (congrArg User.id (unique other kept user changed same))
  · intro named
    have apart : ∀ old ∈ db.users.rows, old.id ≠ user.id →
        db.collation old.authProviderId ≠ db.collation user.authProviderId := by
      intro old member differs same
      cases found : db.findByAuthProviderId? user.authProviderId with
      | none => exact Db.findByAuthProviderId?_eq_none_iff.mp found old member same
      | some other =>
          obtain ⟨otherMember, otherSame⟩ := Db.findByAuthProviderId?_eq_some found
          obtain rfl := stores.sound.uniqueLogins other otherMember old member
            (otherSame.trans same.symm)
          exact differs (named other found)
    intro first firstMember second secondMember same
    rcases (Data.Table.mem_update present).mp firstMember with rfl | ⟨firstOld, firstDiffers⟩
    · rcases (Data.Table.mem_update present).mp secondMember with rfl | ⟨old, differs⟩
      · rfl
      · exact absurd same.symm (apart second old differs)
    · rcases (Data.Table.mem_update present).mp secondMember with rfl | ⟨old, -⟩
      · exact absurd same (apart first firstOld firstDiffers)
      · exact stores.sound.uniqueLogins first firstOld second old same

theorem Stores.admits_updateUser_iff (stores : Stores collation catalog db) (user : User)
    (present : (db.users.find? user.id).isSome) :
    catalog.Admits (sqlServer collation) (usersTable (db.users.update user).rows) ↔
      user.authProviderId.length ≤ Db.authProviderIdWidth ∧
        ∀ other ∈ db.findByAuthProviderId? user.authProviderId, other.id = user.id := by
  obtain ⟨schemas, consists⟩ := stores.consists
  rw [admits_users_iff consists, and_iff_right (db.users.update _).keys_nodup,
    Data.Table.forall_update_iff present stores.sound.narrow,
    stores.unique_update_iff present]
  apply and_congr_right'
  apply and_iff_left
  intro secret member id owner
  obtain ⟨known, knownMember, named⟩ := stores.owners secret member id owner
  by_cases same : known.id = user.id
  · exact ⟨user, (Data.Table.mem_update present).mpr (.inl rfl), same ▸ named⟩
  · exact ⟨known, (Data.Table.mem_update present).mpr (.inr ⟨knownMember, same⟩), named⟩

theorem Stores.admits_deleteUser_iff (stores : Stores collation catalog db) (id : Guid) :
    catalog.Admits (sqlServer collation) (usersTable (db.users.delete id).rows) ↔
      ∀ secret ∈ db.secrets.rows, secret.userId ≠ some id := by
  obtain ⟨schemas, consists⟩ := stores.consists
  rw [admits_users_iff consists]
  constructor
  · intro admits secret member owner
    obtain ⟨-, -, owned⟩ := admits
    obtain ⟨user, kept, named⟩ := owned secret member id owner
    exact (Data.Table.mem_delete.mp kept).2 named
  · intro free
    refine ⟨?_, ⟨(db.users.delete id).keys_nodup, ?_⟩, ?_⟩
    · intro user member
      exact stores.sound.narrow user (Data.Table.mem_delete.mp member).1
    · intro user member other otherMember same
      rw [← stores.collation_eq] at same
      exact stores.sound.uniqueLogins user (Data.Table.mem_delete.mp member).1 other
        (Data.Table.mem_delete.mp otherMember).1 same
    · intro secret member owner owned
      obtain ⟨user, userMember, named⟩ := stores.owners secret member owner owned
      refine ⟨user, Data.Table.mem_delete.mpr ⟨userMember, ?_⟩, named⟩
      intro deleted
      apply free secret member
      rw [← deleted, named]
      exact owned

end Saves

/-! One statement for each entry. -/

section Statements

variable {collation : Utf16 → Utf16} {catalog : Catalog ColumnType SqlValue} {db : Db}

theorem insertSecret_agrees (stores : Stores collation catalog db) (secret : Secret) :
    Agrees collation (db.insertSecret secret)
      (catalog.execute (sqlServer collation)
        (.insert ⟨"secret", "Secret"⟩ (secretRow secret.materialized))) := by
  obtain ⟨schemas, consists⟩ := stores.consists
  change Agrees collation _ (catalog.insertRow _ (secretsTable db.secrets.rows).name _)
  rw [insertRow_secrets consists]
  apply agrees_of_iff
  · intro next saved
    obtain ⟨labelled, references, absent, rfl⟩ := Db.insertSecret_eq_ok_iff.mp saved
    have admits : catalog.Admits (sqlServer collation)
        (secretsTable (db.secrets.insert secret.materialized absent).rows) :=
      stores.admits_insertSecret_iff.mpr ⟨labelled, absent, references⟩
    exact ⟨admits, stores.withSecrets admits⟩
  · intro admits
    obtain ⟨labelled, absent, references⟩ := stores.admits_insertSecret_iff.mp admits
    exact ⟨_, Db.insertSecret_eq_ok_iff.mpr ⟨labelled, references, absent, rfl⟩⟩

theorem updateSecret_agrees (stores : Stores collation catalog db) (secret : Secret) :
    Agrees collation (db.updateSecret secret)
      (catalog.execute (sqlServer collation)
        (.update ⟨"secret", "Secret"⟩ (.guid secret.id) (secretRow secret.materialized))) := by
  obtain ⟨schemas, consists⟩ := stores.consists
  rw [← Secret.id_materialized, update_secrets consists]
  apply agrees_of_iff
  · intro next saved
    obtain ⟨present, labelled, references, rfl⟩ := Db.updateSecret_eq_ok_iff.mp saved
    have admits := (stores.admits_updateSecret_iff secret.materialized present).mpr
      ⟨labelled, references⟩
    exact ⟨⟨present, admits⟩, stores.withSecrets admits⟩
  · intro guard
    obtain ⟨present, admits⟩ := guard
    obtain ⟨labelled, references⟩ :=
      (stores.admits_updateSecret_iff secret.materialized present).mp admits
    exact ⟨_, Db.updateSecret_eq_ok_iff.mpr ⟨present, labelled, references, rfl⟩⟩

theorem deleteSecret_agrees (stores : Stores collation catalog db) (id : Guid) :
    Agrees collation (db.deleteSecret id)
      (catalog.execute (sqlServer collation) (.delete ⟨"secret", "Secret"⟩ (.guid id))) := by
  obtain ⟨schemas, consists⟩ := stores.consists
  rw [delete_secrets consists]
  apply agrees_of_iff
  · intro next saved
    obtain ⟨present, rfl⟩ := Db.deleteSecret_eq_ok_iff.mp saved
    have admits := stores.admits_deleteSecret id
    exact ⟨⟨present, admits⟩, stores.withSecrets admits⟩
  · intro guard
    exact ⟨_, Db.deleteSecret_eq_ok_iff.mpr ⟨guard.1, rfl⟩⟩

theorem insertUser_agrees (stores : Stores collation catalog db) (user : User) :
    Agrees collation (db.insertUser user)
      (catalog.execute (sqlServer collation)
        (.insert ⟨"users", "User"⟩ (userRow user.materialized))) := by
  obtain ⟨schemas, consists⟩ := stores.consists
  change Agrees collation _ (catalog.insertRow _ (usersTable db.users.rows).name _)
  rw [insertRow_users consists stores.owners]
  apply agrees_of_iff
  · intro next saved
    obtain ⟨narrow, unknown, absent, rfl⟩ := Db.insertUser_eq_ok_iff.mp saved
    have admits : catalog.Admits (sqlServer collation)
        (usersTable (db.users.insert user.materialized absent).rows) :=
      stores.admits_insertUser_iff.mpr ⟨narrow, absent, unknown⟩
    exact ⟨admits, stores.withUsers admits⟩
  · intro admits
    obtain ⟨narrow, absent, unknown⟩ := stores.admits_insertUser_iff.mp admits
    exact ⟨_, Db.insertUser_eq_ok_iff.mpr ⟨narrow, unknown, absent, rfl⟩⟩

theorem updateUser_agrees (stores : Stores collation catalog db) (user : User) :
    Agrees collation (db.updateUser user)
      (catalog.execute (sqlServer collation)
        (.update ⟨"users", "User"⟩ (.guid user.id) (userRow user.materialized))) := by
  obtain ⟨schemas, consists⟩ := stores.consists
  rw [← User.id_materialized, update_users consists]
  apply agrees_of_iff
  · intro next saved
    obtain ⟨present, narrow, unique, rfl⟩ := Db.updateUser_eq_ok_iff.mp saved
    have admits := (stores.admits_updateUser_iff user.materialized present).mpr
      ⟨narrow, unique⟩
    exact ⟨⟨present, admits⟩, stores.withUsers admits⟩
  · intro guard
    obtain ⟨present, admits⟩ := guard
    obtain ⟨narrow, unique⟩ :=
      (stores.admits_updateUser_iff user.materialized present).mp admits
    exact ⟨_, Db.updateUser_eq_ok_iff.mpr ⟨present, narrow, unique, rfl⟩⟩

theorem deleteUser_agrees (stores : Stores collation catalog db) (id : Guid) :
    Agrees collation (db.deleteUser id)
      (catalog.execute (sqlServer collation) (.delete ⟨"users", "User"⟩ (.guid id))) := by
  obtain ⟨schemas, consists⟩ := stores.consists
  rw [delete_users consists]
  apply agrees_of_iff
  · intro next saved
    obtain ⟨present, free, rfl⟩ := Db.deleteUser_eq_ok_iff.mp saved
    have admits := (stores.admits_deleteUser_iff id).mpr free
    exact ⟨⟨present, admits⟩, stores.withUsers admits⟩
  · intro guard
    obtain ⟨present, admits⟩ := guard
    have free := (stores.admits_deleteUser_iff id).mp admits
    exact ⟨_, Db.deleteUser_eq_ok_iff.mpr ⟨present, free, rfl⟩⟩

end Statements

variable {ω : Type}

/-- What saving the entry sends; a time is sent without its kind. -/
def statement? (entry : EntityEntry ω) : Option (Statement SqlValue) :=
  match entry.state, entry.entity with
  | .added, .secret secret =>
      some (.insert ⟨"secret", "Secret"⟩ (secretRow secret.materialized))
  | .added, .user user => some (.insert ⟨"users", "User"⟩ (userRow user.materialized))
  | .modified, .secret secret =>
      some (.update ⟨"secret", "Secret"⟩ (.guid secret.id) (secretRow secret.materialized))
  | .modified, .user user =>
      some (.update ⟨"users", "User"⟩ (.guid user.id) (userRow user.materialized))
  | .deleted, .secret secret => some (.delete ⟨"secret", "Secret"⟩ (.guid secret.id))
  | .deleted, .user user => some (.delete ⟨"users", "User"⟩ (.guid user.id))
  | _, _ => none

section Entries

variable {collation : Utf16 → Utf16} {catalog : Catalog ColumnType SqlValue} {db : Db}

theorem saveEntry_of_silent {entry : EntityEntry ω} (silent : statement? entry = none) :
    AppDbContext.saveEntry db entry = .ok db := by
  obtain ⟨entity, state⟩ := entry
  cases state <;> cases entity <;> first | rfl | cases silent

theorem saveEntry_agrees (stores : Stores collation catalog db) {entry : EntityEntry ω}
    {statement : Statement SqlValue} (sends : statement? entry = some statement) :
    Agrees collation (AppDbContext.saveEntry db entry)
      (catalog.execute (sqlServer collation) statement) := by
  obtain ⟨entity, state⟩ := entry
  cases state with
  | detached => cases sends
  | unchanged => cases sends
  | added =>
      cases entity with
      | secret secret =>
          cases sends
          exact insertSecret_agrees stores secret
      | user user =>
          cases sends
          exact insertUser_agrees stores user
      | other payload => cases sends
  | modified =>
      cases entity with
      | secret secret =>
          cases sends
          exact updateSecret_agrees stores secret
      | user user =>
          cases sends
          exact updateUser_agrees stores user
      | other payload => cases sends
  | deleted =>
      cases entity with
      | secret secret =>
          cases sends
          exact deleteSecret_agrees stores secret.id
      | user user =>
          cases sends
          exact deleteUser_agrees stores user.id
      | other payload => cases sends

theorem commands_agree (stores : Stores collation catalog db)
    (commands : List (EntityEntry ω)) :
    Agrees collation (commands.foldlM AppDbContext.saveEntry db)
      (catalog.executeAll (sqlServer collation) (commands.filterMap statement?)) := by
  induction commands generalizing db catalog with
  | nil => exact stores
  | cons command commands induction =>
      rw [List.foldlM_cons]
      cases sends : statement? command with
      | none =>
          rw [List.filterMap_cons_none sends, saveEntry_of_silent sends]
          exact induction stores
      | some statement =>
          rw [List.filterMap_cons_some sends]
          unfold Catalog.executeAll at induction ⊢
          rw [List.foldlM_cons]
          have agrees := saveEntry_agrees stores sends
          generalize AppDbContext.saveEntry db command = saved at agrees ⊢
          generalize catalog.execute (sqlServer collation) statement = executed at agrees ⊢
          cases saved with
          | ok next =>
              cases executed with
              | some changed => exact induction agrees
              | none => exact agrees.elim
          | error exception =>
              cases executed with
              | some changed => exact agrees.elim
              | none => trivial

end Entries

end SecretServer.Migrations
