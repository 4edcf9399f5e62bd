import SecretServer.DataLayer.Repositories

namespace SecretServer.Services

open Text Data Concurrency Database DataLayer

/-! `ExecutorService`: the user behind a principal, created at the first request. -/

inductive ClaimType where
  | nameIdentifier
  | other (name : Utf16)
  deriving DecidableEq

structure Claim where
  type : ClaimType
  value : Utf16
  deriving DecidableEq

structure ClaimsPrincipal where
  claims : List Claim
  deriving DecidableEq

/-- `AuthExtensions.TryGetName`. -/
def ClaimsPrincipal.tryGetName (principal : ClaimsPrincipal) : Option Utf16 :=
  (principal.claims.find? fun claim => claim.type = .nameIdentifier).map Claim.value

def ClaimsPrincipal.login? (principal : ClaimsPrincipal) : Option Utf16 :=
  if Utf16.isNullOrWhiteSpace principal.tryGetName then none else principal.tryGetName

def toExecutor (user : User) : Executor := ⟨user.id⟩

/-- What provisioning a user takes from outside. -/
structure NewUser where
  newGuid : NewGuid
  utcNow : Nat → DateTime

instance : Inhabited NewUser := ⟨⟨⟨1, Guid.one_ne_empty⟩, fun _ => .minValue⟩⟩

namespace ExecutorService

def tryGet (newUser : NewUser) (principal : ClaimsPrincipal) :
    DbTask (Option Executor) :=
  let authProviderId := principal.tryGetName
  if Utf16.isNullOrWhiteSpace authProviderId then
    return none
  else do
    let userEntity ← UserRepository.tryFindByAuthProviderIdAsync authProviderId
    match userEntity with
    | some userEntity => return some (toExecutor userEntity)
    | none =>
        let userEntity ← UserRepository.createAsync newUser.utcNow
          { id := newUser.newGuid.value, authProviderId := authProviderId.getD [] }
        return some (toExecutor userEntity)

def provisioned (newUser : NewUser) (login : Utf16) : User :=
  ({ id := newUser.newGuid.value, authProviderId := login } : User).stamped newUser.utcNow

abbrev Outcome := Except Exception (Option Executor)

def insert (newUser : NewUser) (login : Utf16) (db : Db) : Outcome × Db :=
  DbTask.commit ((db.insertUser (provisioned newUser login)).map fun next =>
    (some (toExecutor (provisioned newUser login)), next)) db

def afterLookup (newUser : NewUser) (login : Utf16) :
    Option User → Program Db Outcome
  | some user => .done (.ok (some (toExecutor user)))
  | none => Program.atomically (insert newUser login)

theorem run_tryGet_anonymous (newUser : NewUser) {principal : ClaimsPrincipal}
    (anonymous : principal.login? = none) :
    (tryGet newUser principal).run = .done (.ok none) := by
  have blank : Utf16.isNullOrWhiteSpace principal.tryGetName = true := by
    unfold ClaimsPrincipal.login? at anonymous
    split at anonymous
    next blank => exact blank
    next => rw [anonymous]; rfl
  simp only [tryGet, blank, if_true]
  rfl

theorem run_tryGet_authenticated (newUser : NewUser) {principal : ClaimsPrincipal}
    {login : Utf16} (authenticated : principal.login? = some login) :
    (tryGet newUser principal).run = .access id fun db =>
      afterLookup newUser login (db.findByAuthProviderId? login) := by
  have nonblank : Utf16.isNullOrWhiteSpace principal.tryGetName = false := by
    unfold ClaimsPrincipal.login? at authenticated
    split at authenticated
    next => cases authenticated
    next nonblank => simpa using nonblank
  have name : principal.tryGetName = some login := by
    rwa [ClaimsPrincipal.login?, nonblank] at authenticated
  rw [name] at nonblank
  simp only [tryGet, name, UserRepository.tryFindByAuthProviderIdAsync, nonblank,
    Bool.false_eq_true, if_false]
  change Program.access _ _ = Program.access _ _
  congr 1
  funext db
  dsimp only
  cases db.findByAuthProviderId? login with
  | some user => rfl
  | none =>
      change (UserRepository.createAsync newUser.utcNow _ >>= _) = _
      rw [UserRepository.createAsync_eq, DbTask.statement_bind_pure]
      change Program.access _ _ = Program.access _ _
      congr 1
      · funext db
        dsimp only [insert, provisioned, Option.getD_some]
        generalize db.insertUser _ = attempt
        cases attempt <;> rfl
      · funext db
        dsimp only [insert, provisioned, Option.getD_some]
        generalize db.insertUser _ = attempt
        cases attempt <;> rfl

theorem insert_cases (newUser : NewUser) (login : Utf16) (db : Db) :
    (∃ constraint, insert newUser login db = (.error (.dbUpdate constraint), db)) ∨
      ∃ (_ : login.length ≤ Db.authProviderIdWidth)
        (_ : db.findByAuthProviderId? login = none)
        (absent : db.users.find? (provisioned newUser login).materialized.id = none),
        insert newUser login db = (.ok (some ⟨newUser.newGuid.value⟩),
          db.withUsers (db.users.insert (provisioned newUser login).materialized absent)) := by
  unfold insert
  cases inserted : db.insertUser (provisioned newUser login) with
  | error exception =>
      obtain ⟨constraint, rfl⟩ := Db.insertUser_error inserted
      exact .inl ⟨constraint, rfl⟩
  | ok next =>
      obtain ⟨fits, unknown, absent, rfl⟩ := Db.insertUser_eq_ok_iff.mp inserted
      exact .inr ⟨fits, unknown, absent, rfl⟩

theorem insert_of_known (newUser : NewUser) {login : Utf16} {db : Db}
    (known : db.findByAuthProviderId? login ≠ none) :
    ∃ constraint, insert newUser login db = (.error (.dbUpdate constraint), db) := by
  rcases insert_cases newUser login db with refused | ⟨_, unknown, _⟩
  · exact refused
  · exact absurd unknown known

theorem insert_of_unknown {newUser : NewUser} {login : Utf16} {db : Db}
    (fits : login.length ≤ Db.authProviderIdWidth)
    (unknown : db.findByAuthProviderId? login = none)
    (absent : db.users.find? newUser.newGuid.value = none) :
    insert newUser login db = (.ok (some ⟨newUser.newGuid.value⟩),
      db.withUsers (db.users.insert (provisioned newUser login).materialized absent)) := by
  have inserted := Db.insertUser_eq_ok_iff.mpr
    (show (provisioned newUser login).authProviderId.length ≤ _ ∧ _ from
      ⟨fits, unknown, absent, rfl⟩)
  unfold insert
  rw [inserted]
  rfl

/-! Run on its own, a call does one of four things. -/

inductive Effect (newUser : NewUser) (principal : ClaimsPrincipal) (db : Db) :
    Outcome → Db → Prop
  | anonymous (anonymous : principal.login? = none) :
      Effect newUser principal db (.ok none) db
  | known {login : Utf16} {user : User} (authenticated : principal.login? = some login)
      (found : db.findByAuthProviderId? login = some user) :
      Effect newUser principal db (.ok (some (toExecutor user))) db
  | refused {login : Utf16} {constraint : DbConstraint}
      (authenticated : principal.login? = some login)
      (unknown : db.findByAuthProviderId? login = none)
      (broken : Db.authProviderIdWidth < login.length ∨
        db.users.find? newUser.newGuid.value ≠ none) :
      Effect newUser principal db (.error (.dbUpdate constraint)) db
  | created {login : Utf16} (authenticated : principal.login? = some login)
      (fits : login.length ≤ Db.authProviderIdWidth)
      (unknown : db.findByAuthProviderId? login = none)
      (absent : db.users.find? (provisioned newUser login).materialized.id = none) :
      Effect newUser principal db (.ok (some ⟨newUser.newGuid.value⟩))
        (db.withUsers (db.users.insert (provisioned newUser login).materialized absent))

theorem effect (newUser : NewUser) (principal : ClaimsPrincipal) (db : Db) :
    Effect newUser principal db ((tryGet newUser principal).run.run db).1
      ((tryGet newUser principal).run.run db).2 := by
  cases authenticated : principal.login? with
  | none =>
      rw [run_tryGet_anonymous newUser authenticated]
      exact .anonymous authenticated
  | some login =>
      rw [run_tryGet_authenticated newUser authenticated, Program.run_access]
      cases found : db.findByAuthProviderId? login with
      | some user =>
          simp only [id_eq]
          exact .known authenticated found
      | none =>
          simp only [id_eq, afterLookup, Program.run_atomically]
          rcases insert_cases newUser login db with
            ⟨constraint, refused⟩ | ⟨fits, unknown, absent, inserted⟩
          · rw [refused]
            refine .refused authenticated found ?_
            by_contra acceptable
            rw [not_or, Nat.not_lt, not_not] at acceptable
            rw [insert_of_unknown acceptable.1 found acceptable.2] at refused
            cases refused
          · rw [inserted]
            exact .created authenticated fits unknown absent

theorem effect_of_run {newUser : NewUser} {principal : ClaimsPrincipal} {db next : Db}
    {outcome : Outcome} (ran : (tryGet newUser principal).run.run db = (outcome, next)) :
    Effect newUser principal db outcome next := by
  have effect := effect newUser principal db
  rwa [ran] at effect

end ExecutorService

end SecretServer.Services
