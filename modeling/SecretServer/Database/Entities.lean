import SecretServer.Core.Basic
import SecretServer.Data.Table

namespace SecretServer.Database

open Text Data

structure User where
  id : Guid
  authProviderId : Utf16
  createdAt : DateTime := .minValue
  updatedAt : DateTime := .minValue
  deriving DecidableEq

structure Secret where
  id : Guid
  userId : Option Guid
  value : Utf16
  ttl : Option Utf16
  createdAt : DateTime := .minValue
  updatedAt : DateTime := .minValue
  deriving DecidableEq

def User.materialized (user : User) : User :=
  { user with
    createdAt := user.createdAt.materialized
    updatedAt := user.updatedAt.materialized }

def Secret.materialized (secret : Secret) : Secret :=
  { secret with
    createdAt := secret.createdAt.materialized
    updatedAt := secret.updatedAt.materialized }

@[simp] theorem User.id_materialized (user : User) :
    user.materialized.id = user.id := rfl

@[simp] theorem Secret.id_materialized (secret : Secret) :
    secret.materialized.id = secret.id := rfl

/-- The tables `users.User` and `secret.Secret`.  Two strings are equal to the
database when its collation gives them the same sort key. -/
structure Db where
  collation : Utf16 → Utf16
  users : Table User.id
  secrets : Table Secret.id

instance : Inhabited Db := ⟨⟨id, .empty, .empty⟩⟩

namespace Db

/-- The width of the column `AuthProviderId`, which is `nvarchar(450)`. -/
def authProviderIdWidth : Nat := 450

def withUsers (db : Db) (users : Table User.id) : Db := { db with users }

def withSecrets (db : Db) (secrets : Table Secret.id) : Db := { db with secrets }

@[simp] theorem secrets_withSecrets (db : Db) (secrets : Table Secret.id) :
    (db.withSecrets secrets).secrets = secrets := rfl

@[simp] theorem collation_withUsers (db : Db) (users : Table User.id) :
    (db.withUsers users).collation = db.collation := rfl

def findByAuthProviderId? (db : Db) (authProviderId : Utf16) : Option User :=
  db.users.rows.find? fun user =>
    db.collation user.authProviderId = db.collation authProviderId

/-- At most one user for each `AuthProviderId`, as the lookup compares them. -/
def UniqueLogins (db : Db) : Prop :=
  ∀ user ∈ db.users.rows, ∀ other ∈ db.users.rows,
    db.collation user.authProviderId = db.collation other.authProviderId → user = other

/-- `INSERT` into `users.User`, under `PK_User`, `IX_User_AuthProviderId` and the
width of the indexed column. -/
def insertUser (db : Db) (user : User) : Except Exception Db :=
  if authProviderIdWidth < user.authProviderId.length then
    .error (.dbUpdate (.columnWidth "AuthProviderId"))
  else if (db.findByAuthProviderId? user.authProviderId).isSome then
    .error (.dbUpdate (.uniqueIndex "IX_User_AuthProviderId"))
  else
    match db.users.insert? user.materialized with
    | none => .error (.dbUpdate (.primaryKey "PK_User"))
    | some users => .ok (db.withUsers users)

def updateUser (db : Db) (user : User) : Except Exception Db :=
  if (db.users.find? user.id).isNone then
    .error .dbUpdateConcurrency
  else if authProviderIdWidth < user.authProviderId.length then
    .error (.dbUpdate (.columnWidth "AuthProviderId"))
  else if (db.findByAuthProviderId? user.authProviderId).any (·.id ≠ user.id) then
    .error (.dbUpdate (.uniqueIndex "IX_User_AuthProviderId"))
  else
    .ok (db.withUsers (db.users.update user.materialized))

/-- `DELETE ... WHERE Id = @id`, refused while a secret refers to the user. -/
def deleteUser (db : Db) (id : Guid) : Except Exception Db :=
  if (db.users.find? id).isNone then
    .error .dbUpdateConcurrency
  else if db.secrets.rows.any (·.userId = some id) then
    .error (.dbUpdate (.foreignKey "FK_Secret_User_UserId"))
  else
    .ok (db.withUsers (db.users.delete id))

/-- `FK_Secret_User_UserId`: a user id that is not null names a user. -/
def ReferencesUser (db : Db) (userId : Option Guid) : Prop :=
  ∀ id ∈ userId, (db.users.find? id).isSome

instance (db : Db) (userId : Option Guid) : Decidable (db.ReferencesUser userId) :=
  match userId with
  | none => .isTrue (by simp [ReferencesUser])
  | some id => decidable_of_iff ((db.users.find? id).isSome = true) (by
      simp [ReferencesUser])

/-- `INSERT` into `secret.Secret`, under `PK_Secret`, `FK_Secret_User_UserId` and
the `NOT NULL` of `Ttl`. -/
def insertSecret (db : Db) (secret : Secret) : Except Exception Db :=
  if secret.ttl = none then
    .error (.dbUpdate (.notNull "Ttl"))
  else if db.ReferencesUser secret.userId then
    match db.secrets.insert? secret.materialized with
    | none => .error (.dbUpdate (.primaryKey "PK_Secret"))
    | some secrets => .ok (db.withSecrets secrets)
  else
    .error (.dbUpdate (.foreignKey "FK_Secret_User_UserId"))

/-- `DELETE ... WHERE Id = @id`, which Entity Framework expects to hit one row. -/
def deleteSecret (db : Db) (id : Guid) : Except Exception Db :=
  if (db.secrets.find? id).isSome then
    .ok (db.withSecrets (db.secrets.delete id))
  else
    .error .dbUpdateConcurrency

def updateSecret (db : Db) (secret : Secret) : Except Exception Db :=
  if (db.secrets.find? secret.id).isSome then
    if secret.ttl = none then
      .error (.dbUpdate (.notNull "Ttl"))
    else if db.ReferencesUser secret.userId then
      .ok (db.withSecrets (db.secrets.update secret.materialized))
    else
      .error (.dbUpdate (.foreignKey "FK_Secret_User_UserId"))
  else
    .error .dbUpdateConcurrency

theorem findByAuthProviderId?_eq_some {db : Db} {authProviderId : Utf16}
    {user : User} (found : db.findByAuthProviderId? authProviderId = some user) :
    user ∈ db.users.rows ∧
      db.collation user.authProviderId = db.collation authProviderId :=
  ⟨List.mem_of_find?_eq_some found, by simpa using List.find?_some found⟩

theorem findByAuthProviderId?_eq_none_iff {db : Db} {authProviderId : Utf16} :
    db.findByAuthProviderId? authProviderId = none ↔
      ∀ user ∈ db.users.rows,
        db.collation user.authProviderId ≠ db.collation authProviderId := by
  simp [findByAuthProviderId?, List.find?_eq_none]

theorem insertUser_eq_ok_iff {db result : Db} {user : User} :
    db.insertUser user = .ok result ↔
      user.authProviderId.length ≤ authProviderIdWidth ∧
      db.findByAuthProviderId? user.authProviderId = none ∧
      ∃ absent : db.users.find? user.id = none,
        result = db.withUsers (db.users.insert user.materialized absent) := by
  unfold insertUser
  split
  next wide => simp [Nat.not_le.mpr wide]
  next fits =>
    split
    next taken =>
      have known := Option.isSome_iff_ne_none.mp taken
      simp [known]
    next free =>
      have unknown : db.findByAuthProviderId? user.authProviderId = none := by
        simpa using free
      cases inserted : db.users.insert? user.materialized with
      | none =>
          have present : db.users.find? user.id ≠ none := by
            simpa using Table.insert?_eq_none_iff.mp inserted
          simp [present]
      | some users =>
          obtain ⟨absent, rfl⟩ := Table.insert?_eq_some_iff.mp inserted
          simp only [Except.ok.injEq, Nat.le_of_not_lt fits, unknown, true_and]
          constructor
          · intro equal
            exact ⟨absent, equal.symm⟩
          · intro accepted
            obtain ⟨_, equal⟩ := accepted
            exact equal.symm

theorem insertUser_error {db : Db} {user : User} {exception : Exception}
    (refused : db.insertUser user = .error exception) :
    ∃ constraint, exception = .dbUpdate constraint := by
  unfold insertUser at refused
  split at refused
  · exact ⟨_, (Except.error.inj refused).symm⟩
  · split at refused
    · exact ⟨_, (Except.error.inj refused).symm⟩
    · split at refused
      · exact ⟨_, (Except.error.inj refused).symm⟩
      · cases refused

theorem UniqueLogins.insert {db : Db} (unique : db.UniqueLogins) {user : User}
    (unknown : db.findByAuthProviderId? user.authProviderId = none)
    (absent : db.users.find? user.materialized.id = none) :
    (db.withUsers (db.users.insert user.materialized absent)).UniqueLogins := by
  have other : ∀ known ∈ db.users.rows,
      db.collation known.authProviderId ≠ db.collation user.authProviderId :=
    findByAuthProviderId?_eq_none_iff.mp unknown
  intro first firstMember second secondMember same
  rcases (Table.mem_insert absent).mp firstMember with firstOld | rfl
  · rcases (Table.mem_insert absent).mp secondMember with secondOld | rfl
    · exact unique first firstOld second secondOld same
    · exact absurd same (other first firstOld)
  · rcases (Table.mem_insert absent).mp secondMember with secondOld | rfl
    · exact absurd same.symm (other second secondOld)
    · rfl

theorem insertSecret_eq_ok_iff {db result : Db} {secret : Secret} :
    db.insertSecret secret = .ok result ↔
      secret.ttl ≠ none ∧ db.ReferencesUser secret.userId ∧
      ∃ absent : db.secrets.find? secret.id = none,
        result = db.withSecrets (db.secrets.insert secret.materialized absent) := by
  unfold insertSecret
  split
  next missing => simp [missing]
  next present =>
    split
    next known =>
      cases inserted : db.secrets.insert? secret.materialized with
      | none =>
          have taken : db.secrets.find? secret.id ≠ none := by
            simpa using Table.insert?_eq_none_iff.mp inserted
          simp [taken]
      | some secrets =>
          obtain ⟨absent, rfl⟩ := Table.insert?_eq_some_iff.mp inserted
          simp only [Except.ok.injEq, present, known, true_and, ne_eq,
            not_false_eq_true]
          constructor
          · intro equal
            exact ⟨absent, equal.symm⟩
          · intro accepted
            obtain ⟨_, equal⟩ := accepted
            exact equal.symm
    next unknown => simp [unknown]

theorem insertSecret_error {db : Db} {secret : Secret} {exception : Exception}
    (refused : db.insertSecret secret = .error exception) :
    ∃ constraint, exception = .dbUpdate constraint := by
  unfold insertSecret at refused
  split at refused
  · exact ⟨_, (Except.error.inj refused).symm⟩
  · split at refused
    · split at refused
      · exact ⟨_, (Except.error.inj refused).symm⟩
      · cases refused
    · exact ⟨_, (Except.error.inj refused).symm⟩

theorem updateSecret_eq_ok_iff {db result : Db} {secret : Secret} :
    db.updateSecret secret = .ok result ↔
      (db.secrets.find? secret.id).isSome ∧ secret.ttl ≠ none ∧
      db.ReferencesUser secret.userId ∧
      result = db.withSecrets (db.secrets.update secret.materialized) := by
  unfold updateSecret
  split
  next present =>
    split
    next missing => simp [missing]
    next labelled =>
      split
      next known => simp [present, labelled, known, eq_comm]
      next unknown => simp [unknown]
  next absent => simp [absent]

theorem deleteSecret_eq_ok_iff {db result : Db} {id : Guid} :
    db.deleteSecret id = .ok result ↔
      (db.secrets.find? id).isSome ∧ result = db.withSecrets (db.secrets.delete id) := by
  unfold deleteSecret
  split
  next present => simp [present, eq_comm]
  next absent => simp [absent]

theorem updateUser_eq_ok_iff {db result : Db} {user : User} :
    db.updateUser user = .ok result ↔
      (db.users.find? user.id).isSome ∧
      user.authProviderId.length ≤ authProviderIdWidth ∧
      (∀ other ∈ db.findByAuthProviderId? user.authProviderId, other.id = user.id) ∧
      result = db.withUsers (db.users.update user.materialized) := by
  unfold updateUser
  split
  next absent => simp [Option.isNone_iff_eq_none.mp absent]
  next present =>
    have stored : (db.users.find? user.id).isSome := by
      simpa [Option.isSome_iff_ne_none] using present
    split
    next wide => simp [Nat.not_le.mpr wide]
    next fits =>
      have narrow := Nat.le_of_not_lt fits
      cases found : db.findByAuthProviderId? user.authProviderId with
      | none => simp [stored, narrow, eq_comm]
      | some other =>
          by_cases same : other.id = user.id
          · simp [same, stored, narrow, eq_comm]
          · simp [same]

theorem deleteUser_eq_ok_iff {db result : Db} {id : Guid} :
    db.deleteUser id = .ok result ↔
      (db.users.find? id).isSome ∧
      (∀ secret ∈ db.secrets.rows, secret.userId ≠ some id) ∧
      result = db.withUsers (db.users.delete id) := by
  unfold deleteUser
  split
  next absent => simp [Option.isNone_iff_eq_none.mp absent]
  next present =>
    have stored : (db.users.find? id).isSome := by
      simpa [Option.isSome_iff_ne_none] using present
    split
    next owner =>
      obtain ⟨secret, member, owned⟩ := List.any_eq_true.mp owner
      have refused : ¬ ∀ secret ∈ db.secrets.rows, secret.userId ≠ some id := by
        intro free
        exact free secret member (by simpa using owned)
      simp [refused]
    next free =>
      have unowned : ∀ secret ∈ db.secrets.rows, secret.userId ≠ some id := by
        simpa using free
      rw [Except.ok.injEq]
      constructor
      · intro equal
        exact ⟨stored, unowned, equal.symm⟩
      · intro accepted
        obtain ⟨-, -, equal⟩ := accepted
        exact equal.symm

end Db

end SecretServer.Database
