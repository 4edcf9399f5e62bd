import SecretServer.Api.Attribution

namespace SecretServer.Api

open Text Data Concurrency Database Services SecretService

/-! What a caller is shown of the secrets, over histories of requests. -/

def SameUser (collation : Utf16 → Utf16) (login : Utf16) (caller : ClaimsPrincipal) :
    Prop :=
  ∃ other ∈ caller.login?, collation other = collation login

section Lists

variable {Key : Type} {crypto : Crypto Key} {collation : Utf16 → Utf16}
  {log : List (ApiRequest × ApiOutcome)}
  {db : Db} {login : Utf16} {executor : Executor}

/-- One entry for each secret of the user that is outstanding, and none for others. -/
structure Lists (collation : Utf16 → Utf16) (log : List (ApiRequest × ApiOutcome))
    (login : Utf16) (entries : List SecretGridResponse) : Prop where
  once : (entries.map SecretGridResponse.guid).Nodup
  exact : ∀ guid ttl, (∃ entry ∈ entries, entry.guid = guid ∧ entry.ttl = ttl) ↔
    ∃ caller, SameUser collation login caller ∧ Outstanding log caller guid ttl

theorem actsAs_executor_iff (same : db.collation = collation) (unique : db.UniqueLogins)
    (registered : Registered db login executor) {caller : ClaimsPrincipal}
    {userId : Option Guid} (actsAs : ActsAs db caller userId) :
    userId = some executor.userId ↔ SameUser collation login caller := by
  obtain ⟨user, member, sameLogin, sameId⟩ := registered
  subst same
  unfold ActsAs at actsAs
  unfold SameUser
  split at actsAs
  next anonymous =>
    rw [actsAs, anonymous]
    constructor
    · intro impossible
      cases impossible
    · intro sameUser
      obtain ⟨_, impossible, _⟩ := sameUser
      cases impossible
  next other authenticated =>
    obtain ⟨acting, rfl, actor, actorMember, actorLogin, actorId⟩ := actsAs
    rw [authenticated]
    constructor
    · intro same
      have sameIds : actor.id = user.id := by
        rw [actorId, sameId]
        exact Option.some.inj same
      obtain rfl := db.users.eq_of_mem actorMember member sameIds
      exact ⟨other, rfl, actorLogin.symm.trans sameLogin⟩
    · intro sameUser
      obtain ⟨_, ⟨⟩, same⟩ := sameUser
      obtain rfl := unique actor actorMember user member
        (actorLogin.trans (same.trans sameLogin.symm))
      rw [← actorId, sameId]

theorem Attributed.lists (attributed : Attributed collation log db)
    (registered : Registered db login executor) :
    Lists collation log login (ServiceCall.listing executor.userId db) where
  once := by
    unfold ServiceCall.listing
    rw [List.map_map]
    exact db.secrets.keys_nodup.sublist (List.filter_sublist.map Secret.id)
  exact guid ttl := by
    constructor
    · intro listed
      obtain ⟨_, member, rfl, rfl⟩ := listed
      obtain ⟨secret, owned, rfl⟩ := List.mem_map.mp member
      obtain ⟨stored, owner⟩ := List.mem_filter.mp owned
      obtain ⟨caller, outstanding, actsAs⟩ := attributed.rows secret stored
      exact ⟨caller, (actsAs_executor_iff attributed.collation_eq
        attributed.unique registered actsAs).mp
        (by simpa using owner), outstanding⟩
    · intro owned
      obtain ⟨caller, same, outstanding⟩ := owned
      obtain ⟨secret, stored, rfl, rfl, actsAs⟩ :=
        attributed.kept caller guid ttl outstanding
      have owner := (actsAs_executor_iff attributed.collation_eq
        attributed.unique registered actsAs).mpr same
      exact ⟨toGridResponse secret, List.mem_map_of_mem
        (List.mem_filter.mpr ⟨stored, by simpa using owner⟩), rfl, rfl⟩

end Lists

section Outcomes

variable {Key : Type} {crypto : Crypto Key} {collation : Utf16 → Utf16}
  {log : List (ApiRequest × ApiOutcome)}
  {db : Db} {request : ApiRequest}

/-- The database has the caller's user, or accepts it. -/
def Admits (db : Db) (newUser : NewUser) (login : Utf16) : Prop :=
  db.findByAuthProviderId? login ≠ none ∨
    (login.length ≤ Db.authProviderIdWidth ∧ db.users.find? newUser.newGuid.value = none)

/-- Every user is kept and every secret but one, and no secret is added. -/
structure DisposesOfOnly (guid : Option Guid) (before after : Db) : Prop where
  users : ∀ user ∈ before.users.rows, user ∈ after.users.rows
  others : ∀ secret ∈ before.secrets.rows, some secret.id ≠ guid →
    secret ∈ after.secrets.rows
  nothingNew : ∀ secret ∈ after.secrets.rows, secret ∈ before.secrets.rows

theorem DisposesOfOnly.refl (guid : Option Guid) (db : Db) : DisposesOfOnly guid db db :=
  ⟨fun _ member => member, fun _ member _ => member, fun _ member => member⟩

end Outcomes

section Histories

variable {Key : Type} (crypto : Crypto Key) (collation : Utf16 → Utf16)

def emptyDb : Db := ⟨collation, .empty, .empty⟩

/-- What a `GET` answers a caller: anonymous ones are refused, and others are given the
list of their outstanding secrets unless their user cannot be provided, in which case
they have none. -/
def Answers (log : List (ApiRequest × ApiOutcome)) (db : Db) (request : ApiRequest)
    (outcome : ApiOutcome) : Prop :=
  match request.user.login? with
  | none => outcome = .error BaseController.notAuthenticated
  | some login =>
      (Admits db request.filterUser login ∧ ∃ entries,
        outcome = .ok (.value (.secretsCreatedByUser entries)) ∧
          Lists collation log login entries) ∨
      (¬ Admits db request.filterUser login ∧
        (∃ constraint, outcome = .error (.dbUpdate constraint)) ∧
        ∀ caller guid ttl, SameUser collation login caller →
          ¬ Outstanding log caller guid ttl)

end Histories

end SecretServer.Api
