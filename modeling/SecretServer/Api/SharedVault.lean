import SecretServer.Api.Listings
import SecretServer.Services.Vault

namespace SecretServer.Api

open Text Data Concurrency Database Services SecretService
open ExceptionHandlingMiddleware (errorCode)

/-! What the API is meant to be to its callers: the vault, with a note of who created
each secret.  Callers are told apart by the sort keys of their logins. -/

structure SharedVault where
  entries : Vault
  creator : Guid → Option Utf16

abbrev VaultAnswer := Except ErrorCode ActionResult

def gridOf (entry : VaultEntry) : SecretGridResponse where
  guid := entry.id
  ttl := some entry.contents.lifetime.getStringValue
  createdAt := entry.createdAt.materialized

def ClaimsPrincipal.sortKey? (collation : Utf16 → Utf16) (caller : ClaimsPrincipal) :
    Option Utf16 :=
  caller.login?.map collation

namespace SharedVault

def empty : SharedVault := ⟨.empty, fun _ => none⟩

def create (key : Option Utf16) (generated : Generated) (body : CreateSecretRequest)
    (vault : SharedVault) : VaultAnswer × SharedVault :=
  match Vault.create generated body vault.entries with
  | (.ok response, entries) =>
      (.ok (.value response),
        ⟨entries, Function.update vault.creator generated.newGuid.value key⟩)
  | (.error code, _) => (.error code, vault)

def reveal {Key : Type} [DecidableEq Key] (crypto : Crypto Key) (generated : Generated)
    (body : RevealSecretRequest) (vault : SharedVault) : VaultAnswer × SharedVault :=
  match Vault.reveal crypto generated body vault.entries with
  | (.ok response, entries) => (.ok (.value response), { vault with entries })
  | (.error code, _) => (.error code, vault)

def listing (key : Utf16) (vault : SharedVault) : List SecretGridResponse :=
  (vault.entries.rows.filter fun entry => vault.creator entry.id = some key).map gridOf

def list (key : Option Utf16) (vault : SharedVault) : VaultAnswer :=
  match key with
  | none => .error .unauthorized
  | some key => .ok (.value (.secretsCreatedByUser (vault.listing key)))

def handle {Key : Type} [DecidableEq Key] (crypto : Crypto Key)
    (collation : Utf16 → Utf16) (request : ApiRequest) (vault : SharedVault) :
    VaultAnswer × SharedVault :=
  match request.endpoint with
  | .createSecret none => (.ok .invalidModelState, vault)
  | .createSecret (some body) =>
      if ModelState.isValidCreate body then
        vault.create (ClaimsPrincipal.sortKey? collation request.user) request.generated body
      else
        (.ok .invalidModelState, vault)
  | .revealSecret none => (.ok .invalidModelState, vault)
  | .revealSecret (some body) =>
      if ModelState.isValidReveal body then
        vault.reveal crypto request.generated body
      else
        (.ok .invalidModelState, vault)
  | .getSecretsCreatedByUser =>
      (vault.list (ClaimsPrincipal.sortKey? collation request.user), vault)

end SharedVault

/-- The user id is that of the user whose login has the sort key, or null for no key. -/
def OwnedUnder (db : Db) (userId : Option Guid) : Option Utf16 → Prop
  | none => userId = none
  | some key => ∃ user ∈ db.users.rows, db.collation user.authProviderId = key ∧
      userId = some user.id

/-- The database holds the secrets of the vault, each under its creator's user id. -/
structure Shows {Key : Type} (crypto : Crypto Key) (db : Db) (vault : SharedVault) :
    Prop where
  unique : db.UniqueLogins
  named : ∀ user ∈ db.users.rows, user.id ≠ Guid.empty
  entries : Table.Related (Keeps crypto) db.secrets vault.entries
  owned : ∀ secret ∈ db.secrets.rows,
    OwnedUnder db secret.userId (vault.creator secret.id)

section Owners

variable {db next : Db} {userId : Option Guid} {key : Option Utf16}

theorem OwnedUnder.grow (grows : Grows db next) (owned : OwnedUnder db userId key) :
    OwnedUnder next userId key := by
  cases key with
  | none => exact owned
  | some key =>
      obtain ⟨user, member, same, id⟩ := owned
      exact ⟨user, grows.users user member, by rw [grows.collation]; exact same, id⟩

theorem ownedUnder_of_actsAs {caller : ClaimsPrincipal} (actsAs : ActsAs db caller userId) :
    OwnedUnder db userId (ClaimsPrincipal.sortKey? db.collation caller) := by
  unfold ActsAs at actsAs
  unfold ClaimsPrincipal.sortKey?
  split at actsAs
  next anonymous =>
    rw [anonymous]
    exact actsAs
  next login authenticated =>
    rw [authenticated]
    obtain ⟨executor, rfl, user, member, same, id⟩ := actsAs
    exact ⟨user, member, same, congrArg some id.symm⟩

theorem OwnedUnder.executor_iff (unique : db.UniqueLogins) {login : Utf16}
    {executor : Executor} (registered : Registered db login executor)
    (owned : OwnedUnder db userId key) :
    userId = some executor.userId ↔ key = some (db.collation login) := by
  obtain ⟨user, member, sameLogin, sameId⟩ := registered
  cases key with
  | none =>
      rw [show userId = none from owned]
      simp
  | some key =>
      obtain ⟨owner, ownerMember, rfl, rfl⟩ := owned
      constructor
      · intro same
        have sameIds : owner.id = user.id := by
          rw [sameId]
          exact Option.some.inj same
        rw [db.users.eq_of_mem ownerMember member sameIds, sameLogin]
      · intro same
        have sameKeys := (Option.some.inj same).trans sameLogin.symm
        rw [unique owner ownerMember user member sameKeys, sameId]

end Owners

section Answers

variable {Key : Type} [DecidableEq Key] {crypto : Crypto Key} {db : Db}
  {vault : SharedVault} {request : ApiRequest}

def answerOf (outcome : ApiOutcome) : VaultAnswer := outcome.mapError errorCode

theorem SharedVault.handle_of_unbound (unbound : request.endpoint.actionArguments = none)
    (collation : Utf16 → Utf16) (vault : SharedVault) :
    vault.handle crypto collation request = (.ok .invalidModelState, vault) := by
  unfold handle
  cases endpoint : request.endpoint with
  | createSecret body =>
      rw [endpoint] at unbound
      cases body with
      | none => rfl
      | some body => exact if_neg (Endpoint.createSecret_unbound unbound)
  | revealSecret body =>
      rw [endpoint] at unbound
      cases body with
      | none => rfl
      | some body => exact if_neg (Endpoint.revealSecret_unbound unbound)
  | getSecretsCreatedByUser =>
      rw [endpoint] at unbound
      cases unbound

/-- What a request does to the shared vault. -/
inductive SharedVault.Handling (crypto : Crypto Key) (request : ApiRequest)
    (vault : SharedVault) : VaultAnswer × SharedVault → Prop
  | unbound (unbound : request.endpoint.actionArguments = none) :
      Handling crypto request vault (.ok .invalidModelState, vault)
  | refused {code : ErrorCode} : Handling crypto request vault (.error code, vault)
  | created {body : CreateSecretRequest} {response : ServiceResponse} {entries : Vault}
      {creator : Guid → Option Utf16}
      (endpoint : request.endpoint = .createSecret (some body))
      (created : Vault.create request.generated body vault.entries =
        (.ok response, entries)) :
      Handling crypto request vault (.ok (.value response), ⟨entries, creator⟩)
  | revealed {body : RevealSecretRequest} {entry : VaultEntry}
      (endpoint : request.endpoint = .revealSecret (some body))
      (found : vault.entries.find? body.guid = some entry) :
      Handling crypto request vault
        (.ok (.value (.revealSecret ⟨entry.contents.plaintext⟩)),
          { vault with entries := vault.entries.delete body.guid })
  | listed {listed : List SecretGridResponse}
      (endpoint : request.endpoint = .getSecretsCreatedByUser) :
      Handling crypto request vault
        (.ok (.value (.secretsCreatedByUser listed)), vault)

theorem SharedVault.handling (crypto : Crypto Key) (collation : Utf16 → Utf16)
    (request : ApiRequest) (vault : SharedVault) :
    Handling crypto request vault (vault.handle crypto collation request) := by
  cases bound : request.endpoint.actionArguments with
  | none =>
      rw [handle_of_unbound bound]
      exact .unbound bound
  | some actionArguments =>
      unfold handle
      cases endpoint : request.endpoint with
      | createSecret body =>
          rw [endpoint] at bound
          obtain ⟨body, rfl, valid, rfl⟩ := Endpoint.createSecret_bound bound
          dsimp only
          rw [if_pos valid]
          unfold create
          generalize ran : Vault.create request.generated body vault.entries = result
          obtain ⟨answer, entries⟩ := result
          cases answer with
          | ok response => exact .created endpoint ran
          | error code => exact .refused
      | revealSecret body =>
          rw [endpoint] at bound
          obtain ⟨body, rfl, valid, rfl⟩ := Endpoint.revealSecret_bound bound
          dsimp only
          rw [if_pos valid]
          unfold reveal
          rcases Vault.reveal_cases crypto request.generated body vault.entries with
            ⟨code, refused⟩ | ⟨entry, found, given⟩
          · rw [refused]
            exact .refused
          · rw [given]
            exact .revealed endpoint found
      | getSecretsCreatedByUser =>
          dsimp only
          unfold list
          cases ClaimsPrincipal.sortKey? collation request.user with
          | none => exact .refused
          | some key => exact .listed endpoint

theorem SharedVault.handle_of_error {collation : Utf16 → Utf16} {code : ErrorCode}
    (refused : (vault.handle crypto collation request).1 = .error code) :
    (vault.handle crypto collation request).2 = vault := by
  have handling := vault.handling crypto collation request
  generalize vault.handle crypto collation request = handled at refused handling ⊢
  cases handling with
  | refused => rfl
  | unbound => cases refused
  | created => cases refused
  | revealed => cases refused
  | listed => cases refused

/-- An entry that a request leaves is an old one or keeps what the request asks for. -/
theorem SharedVault.mem_handle {collation : Utf16 → Utf16} {entry : VaultEntry}
    (member : entry ∈ (vault.handle crypto collation request).2.entries.rows) :
    entry ∈ vault.entries.rows ∨
      ∃ body, request.endpoint = .createSecret (some body) ∧
        Asks body request.generated entry.contents := by
  have handling := vault.handling crypto collation request
  generalize vault.handle crypto collation request = handled at member handling
  cases handling with
  | unbound => exact .inl member
  | refused => exact .inl member
  | @created body response entries _ endpoint created =>
      have stored : entry ∈
          (Vault.create request.generated body vault.entries).2.rows := by
        rw [created]
        exact member
      exact (Vault.mem_create stored).imp id fun asks => ⟨body, endpoint, asks⟩
  | revealed => exact .inl (Table.mem_delete.mp member).1
  | listed => exact .inl member

theorem vault_create_executor (generated : Generated) (body : CreateSecretRequest)
    (executor : Option Executor) (entries : Vault) :
    Vault.create generated { body with executor } entries =
      Vault.create generated body entries := rfl

omit [DecidableEq Key] in
theorem Shows.refines (shows : Shows crypto db vault) :
    Refines crypto db db vault.entries :=
  ⟨shows.entries, rfl⟩

/-- A creation answers as the shared vault does, and leaves what it leaves. -/
theorem Shows.create (shows : Shows crypto db vault) (lawful : crypto.Lawful)
    {body : CreateSecretRequest} {executor : Option Executor}
    (endpoint : request.endpoint = .createSecret (some body))
    (valid : ModelState.isValidCreate body = true)
    (wellFormed : ∀ text ∈ body.secret, text.WellFormed)
    (actsAs : ActsAs db request.user (executor.map Executor.userId)) :
    let ran := ((ServiceCall.createSecret request.generated
      { body with executor }).program crypto).run db
    answerOf (ran.1.map .value) = (vault.handle crypto db.collation request).1 ∧
      Shows crypto ran.2 (vault.handle crypto db.collation request).2 := by
  have promised : (VaultCall.create request.generated { body with executor }).Promised db :=
    ⟨wellFormed, actsAs.referencesUser⟩
  have refined := create_refines lawful promised shows.refines
  have effect := (ServiceCall.createSecret request.generated
    { body with executor }).effect crypto db
  rw [vault_create_executor] at refined
  dsimp only at refined ⊢
  generalize ((ServiceCall.createSecret request.generated
    { body with executor }).program crypto).run db = ran at refined effect ⊢
  obtain ⟨same, refines⟩ := refined
  have entries := refines.entries
  unfold SharedVault.handle SharedVault.create
  rw [endpoint]
  dsimp only
  rw [if_pos valid]
  generalize Vault.create request.generated body vault.entries = expected
    at same entries ⊢
  obtain ⟨answer, kept⟩ := expected
  obtain ⟨outcome, next⟩ := ran
  cases effect with
  | failed =>
      subst same
      exact ⟨rfl, shows⟩
  | @created _ _ _ secret prepared known absent =>
      subst same
      obtain ⟨_, rfl⟩ := entity_of_prepare prepared
      have owned : ∀ row ∈ (db.secrets.insert _ absent).rows, OwnedUnder db row.userId
          (Function.update vault.creator request.generated.newGuid.value
            (ClaimsPrincipal.sortKey? db.collation request.user) row.id) := by
        intro row member
        rcases (Table.mem_insert absent).mp member with old | rfl
        · have differs : row.id ≠ request.generated.newGuid.value :=
            Table.find?_eq_none_iff.mp absent row old
          rw [Function.update_of_ne differs]
          exact shows.owned row old
        · refine Eq.mpr (congrArg _ ?_) (ownedUnder_of_actsAs actsAs)
          exact Function.update_self _ _ _
      exact ⟨rfl, shows.unique, shows.named, entries, fun row member =>
        (owned row member).grow (grows_withSecrets _)⟩

theorem Shows.reveal (shows : Shows crypto db vault) (lawful : crypto.Lawful)
    {body : RevealSecretRequest}
    (endpoint : request.endpoint = .revealSecret (some body))
    (valid : ModelState.isValidReveal body = true)
    (rightly : ∀ entry ∈ vault.entries.rows,
      entry.contents.OpensRightly crypto body.passphrase) :
    let ran := ((ServiceCall.revealAndDisposeSecret request.generated body).program
      crypto).run db
    answerOf (ran.1.map .value) = (vault.handle crypto db.collation request).1 ∧
      Shows crypto ran.2 (vault.handle crypto db.collation request).2 := by
  have refined := reveal_refines lawful request.generated rightly shows.refines
  have effect := (ServiceCall.revealAndDisposeSecret request.generated body).effect
    crypto db
  dsimp only at refined ⊢
  generalize ((ServiceCall.revealAndDisposeSecret request.generated body).program
    crypto).run db = ran at refined effect ⊢
  obtain ⟨same, refines⟩ := refined
  have entries := refines.entries
  unfold SharedVault.handle SharedVault.reveal
  rw [endpoint]
  dsimp only
  rw [if_pos valid]
  generalize Vault.reveal crypto request.generated body vault.entries = expected
    at same entries ⊢
  obtain ⟨answer, kept⟩ := expected
  obtain ⟨outcome, next⟩ := ran
  cases effect with
  | failed =>
      subst same
      exact ⟨rfl, shows⟩
  | revealed accepted found opened =>
      subst same
      refine ⟨rfl, shows.unique, shows.named, entries, ?_⟩
      intro row member
      exact (shows.owned row (Table.mem_delete.mp member).1).grow (grows_withSecrets _)

theorem Shows.list (shows : Shows crypto db vault) {login : Utf16} {executor : Executor}
    (endpoint : request.endpoint = .getSecretsCreatedByUser)
    (authenticated : request.user.login? = some login)
    (registered : Registered db login executor) :
    vault.handle crypto db.collation request =
      (answerOf (.ok (.value (.secretsCreatedByUser
        (ServiceCall.listing executor.userId db)))), vault) := by
  have entries := shows.entries.of_mem shows.owned
  have listed : ServiceCall.listing executor.userId db =
      vault.listing (db.collation login) := by
    refine entries.map_filter_eq ?_ ?_
    · intro row entry related
      obtain ⟨keeps, owned⟩ := related
      rw [← keeps.id]
      exact decide_eq_decide.mpr (owned.executor_iff shows.unique registered)
    · intro row entry related
      obtain ⟨keeps, -⟩ := related
      unfold toGridResponse gridOf
      rw [keeps.id, keeps.holds.ttl, keeps.createdAt]
  unfold SharedVault.handle SharedVault.list ClaimsPrincipal.sortKey?
  rw [endpoint, authenticated, listed]
  rfl

end Answers

end SecretServer.Api
