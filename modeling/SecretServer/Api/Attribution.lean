import SecretServer.Api.Controllers
import SecretServer.Data.Since
import SecretServer.Services.Provisioning

namespace SecretServer.Api

open Text Data Concurrency Database Services SecretService

/-! Whose secrets there are after a history of requests, and what a caller's list
shows of them. -/

def Creates (caller : ClaimsPrincipal) (guid : Guid) (ttl : Option Utf16)
    (entry : ApiRequest × ApiOutcome) : Prop :=
  entry.1.user = caller ∧ ∃ body response,
    entry.1.endpoint = .createSecret (some body) ∧
      entry.2 = .ok (.value (.createSecret response)) ∧
      response.guid = guid ∧ body.ttl = ttl

def Reveals (guid : Guid) (entry : ApiRequest × ApiOutcome) : Prop :=
  ∃ body response, entry.1.endpoint = .revealSecret (some body) ∧
    entry.2 = .ok (.value (.revealSecret response)) ∧ body.guid = guid

/-- The caller created the secret, and nobody has revealed it yet. -/
def Outstanding (log : List (ApiRequest × ApiOutcome)) (caller : ClaimsPrincipal)
    (guid : Guid) (ttl : Option Utf16) : Prop :=
  Since (Creates caller guid ttl) (Reveals guid) log

/-- The user id that a caller acts under: that of the user with its login. -/
def ActsAs (db : Db) (caller : ClaimsPrincipal) (userId : Option Guid) : Prop :=
  match caller.login? with
  | none => userId = none
  | some login => ∃ executor, userId = some executor.userId ∧ Registered db login executor

structure Attributed (collation : Utf16 → Utf16) (log : List (ApiRequest × ApiOutcome))
    (db : Db) : Prop where
  collation_eq : db.collation = collation
  unique : db.UniqueLogins
  named : ∀ user ∈ db.users.rows, user.id ≠ Guid.empty
  rows : ∀ secret ∈ db.secrets.rows, ∃ caller,
    Outstanding log caller secret.id secret.ttl ∧ ActsAs db caller secret.userId
  kept : ∀ caller guid ttl, Outstanding log caller guid ttl →
    ∃ secret ∈ db.secrets.rows, secret.id = guid ∧ secret.ttl = ttl ∧
      ActsAs db caller secret.userId

inductive Provisions (db : Db) : Db → Prop
  | nobody : Provisions db db
  | somebody {user : User} (named : user.id ≠ Guid.empty)
      (unknown : db.findByAuthProviderId? user.authProviderId = none)
      (absent : db.users.find? user.materialized.id = none) :
      Provisions db (db.withUsers (db.users.insert user.materialized absent))

section Provisioning

variable {collation : Utf16 → Utf16} {log : List (ApiRequest × ApiOutcome)}
  {db next : Db} {caller : ClaimsPrincipal}
  {userId : Option Guid} {newUser : NewUser}

theorem ActsAs.grow (grows : Grows db next) (actsAs : ActsAs db caller userId) :
    ActsAs next caller userId := by
  unfold ActsAs at actsAs ⊢
  split at actsAs
  next => exact actsAs
  next =>
    obtain ⟨executor, same, registered⟩ := actsAs
    exact ⟨executor, same, registered.grow grows⟩

theorem ActsAs.referencesUser (actsAs : ActsAs db caller userId) :
    db.ReferencesUser userId := by
  intro id member
  unfold ActsAs at actsAs
  split at actsAs
  next => rw [actsAs] at member; cases member
  next =>
    obtain ⟨executor, rfl, user, known, -, sameId⟩ := actsAs
    cases member
    rw [← sameId, Table.find?_of_mem known]
    rfl

theorem Provisions.secrets (provisions : Provisions db next) :
    next.secrets = db.secrets := by
  cases provisions <;> rfl

theorem Provisions.grows (provisions : Provisions db next) : Grows db next := by
  cases provisions with
  | nobody => exact .refl db
  | somebody named unknown absent =>
      exact ⟨rfl, fun _ member => (Table.mem_insert absent).mpr (.inl member)⟩

theorem Provisions.attributed (provisions : Provisions db next)
    (attributed : Attributed collation log db) : Attributed collation log next where
  collation_eq := provisions.grows.collation.trans attributed.collation_eq
  unique := by
    cases provisions with
    | nobody => exact attributed.unique
    | somebody named unknown absent => exact attributed.unique.insert unknown absent
  named := by
    cases provisions with
    | nobody => exact attributed.named
    | somebody named unknown absent =>
        intro user member
        rcases (Table.mem_insert absent).mp member with old | rfl
        · exact attributed.named user old
        · exact named
  rows secret member := by
    rw [provisions.secrets] at member
    obtain ⟨caller, outstanding, actsAs⟩ := attributed.rows secret member
    exact ⟨caller, outstanding, actsAs.grow provisions.grows⟩
  kept caller guid ttl outstanding := by
    obtain ⟨secret, member, id, label, actsAs⟩ :=
      attributed.kept caller guid ttl outstanding
    exact ⟨secret, provisions.secrets ▸ member, id, label, actsAs.grow provisions.grows⟩

theorem provisions_of_effect {outcome : ExecutorService.Outcome}
    (effect : ExecutorService.Effect newUser caller db outcome next) :
    Provisions db next := by
  cases effect with
  | anonymous => exact .nobody
  | known => exact .nobody
  | refused => exact .nobody
  | created authenticated fits unknown absent =>
      exact .somebody newUser.newGuid.nonempty unknown absent

theorem actsAs_of_effect {executor : Option Executor}
    (effect : ExecutorService.Effect newUser caller db (.ok executor) next) :
    ActsAs next caller (executor.map Executor.userId) := by
  unfold ActsAs
  generalize outcome : (.ok executor : ExecutorService.Outcome) = result at effect
  cases effect with
  | anonymous anonymous =>
      cases outcome
      rw [anonymous]
      rfl
  | known authenticated found =>
      cases outcome
      rw [authenticated]
      obtain ⟨member, same⟩ := Db.findByAuthProviderId?_eq_some found
      exact ⟨_, rfl, _, member, same, rfl⟩
  | refused => cases outcome
  | created authenticated fits unknown absent =>
      cases outcome
      rw [authenticated]
      exact ⟨_, rfl, _, (Table.mem_insert absent).mpr (.inr rfl), rfl, rfl⟩

end Provisioning

section Requests

variable {collation : Utf16 → Utf16} {log : List (ApiRequest × ApiOutcome)} {db : Db}
  {request : ApiRequest}

structure Quiet (entry : ApiRequest × ApiOutcome) : Prop where
  creates : ∀ caller guid ttl, ¬ Creates caller guid ttl entry
  reveals : ∀ guid, ¬ Reveals guid entry

theorem Quiet.of_error {exception : Exception} : Quiet (request, .error exception) where
  creates := by
    intro _ _ _ creates
    obtain ⟨_, _, _, _, impossible, _⟩ := creates
    cases impossible
  reveals := by
    intro _ reveals
    obtain ⟨_, _, _, impossible, _⟩ := reveals
    cases impossible

theorem Quiet.of_invalidModelState : Quiet (request, .ok .invalidModelState) where
  creates := by
    intro _ _ _ creates
    obtain ⟨_, _, _, _, impossible, _⟩ := creates
    cases impossible
  reveals := by
    intro _ reveals
    obtain ⟨_, _, _, impossible, _⟩ := reveals
    cases impossible

theorem Quiet.of_get {outcome : ApiOutcome}
    (lists : request.endpoint = .getSecretsCreatedByUser) : Quiet (request, outcome) where
  creates := by
    intro _ _ _ creates
    obtain ⟨_, _, _, endpoint, _⟩ := creates
    exact Endpoint.noConfusion (lists.symm.trans endpoint)
  reveals := by
    intro _ reveals
    obtain ⟨_, _, endpoint, _⟩ := reveals
    exact Endpoint.noConfusion (lists.symm.trans endpoint)

theorem Attributed.quiet (attributed : Attributed collation log db)
    {entry : ApiRequest × ApiOutcome} (quiet : Quiet entry) :
    Attributed collation (log ++ [entry]) db where
  collation_eq := attributed.collation_eq
  unique := attributed.unique
  named := attributed.named
  rows secret member := by
    obtain ⟨caller, outstanding, actsAs⟩ := attributed.rows secret member
    exact ⟨caller, outstanding.continued (quiet.reveals _), actsAs⟩
  kept caller guid ttl outstanding := by
    rcases since_concat_iff.mp outstanding with creates | ⟨earlier, -⟩
    · exact absurd creates (quiet.creates _ _ _)
    · exact attributed.kept caller guid ttl earlier

theorem grows_withSecrets (secrets : Table Secret.id) : Grows db (db.withSecrets secrets) :=
  ⟨rfl, fun _ member => member⟩

theorem Attributed.created (attributed : Attributed collation log db)
    {body : CreateSecretRequest}
    {secret : Secret} (endpoint : request.endpoint = .createSecret (some body))
    (label : secret.ttl = body.ttl) (actsAs : ActsAs db request.user secret.userId)
    (absent : db.secrets.find? secret.materialized.id = none) :
    Attributed collation
      (log ++ [(request, .ok (.value (.createSecret (toCreateResponse secret))))])
      (db.withSecrets (db.secrets.insert secret.materialized absent)) where
  collation_eq := attributed.collation_eq
  unique := attributed.unique
  named := attributed.named
  rows row member := by
    rcases (Table.mem_insert absent).mp member with old | rfl
    · obtain ⟨caller, outstanding, owner⟩ := attributed.rows row old
      refine ⟨caller, outstanding.continued ?_, owner.grow (grows_withSecrets _)⟩
      intro reveals
      obtain ⟨_, _, other, _⟩ := reveals
      cases endpoint.symm.trans other
    · exact ⟨request.user, .begun ⟨rfl, body, _, endpoint, rfl, rfl, label.symm⟩,
        actsAs.grow (grows_withSecrets _)⟩
  kept caller guid ttl outstanding := by
    rcases since_concat_iff.mp outstanding with creates | ⟨earlier, -⟩
    · obtain ⟨rfl, other, response, sameEndpoint, sameOutcome, rfl, rfl⟩ := creates
      cases sameOutcome
      cases endpoint.symm.trans sameEndpoint
      exact ⟨secret.materialized, (Table.mem_insert absent).mpr (.inr rfl), rfl, label,
        actsAs.grow (grows_withSecrets _)⟩
    · obtain ⟨row, member, id, ttl, owner⟩ := attributed.kept caller guid ttl earlier
      exact ⟨row, (Table.mem_insert absent).mpr (.inl member), id, ttl,
        owner.grow (grows_withSecrets _)⟩

theorem Attributed.revealed (attributed : Attributed collation log db)
    {body : RevealSecretRequest}
    {response : RevealSecretResponse}
    (endpoint : request.endpoint = .revealSecret (some body)) :
    Attributed collation (log ++ [(request, .ok (.value (.revealSecret response)))])
      (db.withSecrets (db.secrets.delete body.guid)) where
  collation_eq := attributed.collation_eq
  unique := attributed.unique
  named := attributed.named
  rows row member := by
    obtain ⟨old, differs⟩ := Table.mem_delete.mp member
    obtain ⟨caller, outstanding, owner⟩ := attributed.rows row old
    refine ⟨caller, outstanding.continued ?_, owner.grow (grows_withSecrets _)⟩
    intro reveals
    obtain ⟨_, _, other, _, same⟩ := reveals
    cases endpoint.symm.trans other
    exact differs same.symm
  kept caller guid ttl outstanding := by
    rcases since_concat_iff.mp outstanding with creates | ⟨earlier, unrevealed⟩
    · obtain ⟨_, _, _, other, _⟩ := creates
      cases endpoint.symm.trans other
    · obtain ⟨row, member, id, label, owner⟩ := attributed.kept caller guid ttl earlier
      refine ⟨row, Table.mem_delete.mpr ⟨member, ?_⟩, id, label,
        owner.grow (grows_withSecrets _)⟩
      intro same
      exact unrevealed ⟨body, response, endpoint, rfl, same.symm.trans id⟩

end Requests

section Steps

variable {Key : Type} {crypto : Crypto Key} {collation : Utf16 → Utf16}
  {log : List (ApiRequest × ApiOutcome)} {db next : Db} {request : ApiRequest}
  {actionArguments : List ActionArgument} {executor : Option Executor}

/-- What an action does to the database that the filter leaves it, and what it returns. -/
inductive ActionEffect (crypto : Crypto Key) (request : ApiRequest)
    (executor : Option Executor) (db : Db) : ApiOutcome × Db → Prop
  | failed {exception : Exception} {provided : Db} (provisions : Provisions db provided) :
      ActionEffect crypto request executor db (.error exception, provided)
  | created {body : CreateSecretRequest} {secret : Secret}
      (endpoint : request.endpoint = .createSecret (some body))
      (prepared : prepare crypto request.generated { body with executor } = .ok secret)
      (absent : db.secrets.find? secret.materialized.id = none) :
      ActionEffect crypto request executor db
        (.ok (.value (.createSecret (toCreateResponse secret))),
          db.withSecrets (db.secrets.insert secret.materialized absent))
  | revealed {body : RevealSecretRequest} {response : RevealSecretResponse}
      (endpoint : request.endpoint = .revealSecret (some body)) :
      ActionEffect crypto request executor db
        (.ok (.value (.revealSecret response)),
          db.withSecrets (db.secrets.delete body.guid))
  | listed {caller : Executor} {provided : Db}
      (endpoint : request.endpoint = .getSecretsCreatedByUser)
      (provisions : Provisions db provided) :
      ActionEffect crypto request executor db
        (.ok (.value (.secretsCreatedByUser
          (ServiceCall.listing caller.userId provided))), provided)

theorem actionEffect_get (crypto : Crypto Key)
    (endpoint : request.endpoint = .getSecretsCreatedByUser) :
    ActionEffect crypto request executor db ((SecretsController.invoke crypto request
      (SetExecutorFilter.setExecutor executor [])).run.run db) := by
  rw [invoke_getSecretsCreatedByUser endpoint]
  have effect := ExecutorService.effect request.controllerUser request.user db
  generalize (ExecutorService.tryGet request.controllerUser request.user).run.run db = ran
    at effect ⊢
  obtain ⟨outcome, provided⟩ := ran
  have provisions := provisions_of_effect effect
  cases outcome with
  | error exception => exact .failed provisions
  | ok caller =>
      cases caller with
      | none => exact .failed provisions
      | some caller =>
          dsimp only
          have effect := (ServiceCall.getSecretsCreatedByUser ⟨caller⟩).effect crypto
            provided
          generalize ((ServiceCall.getSecretsCreatedByUser ⟨caller⟩).program crypto).run
            provided = ran at effect ⊢
          obtain ⟨outcome, last⟩ := ran
          dsimp only at effect ⊢
          cases effect with
          | failed => exact .failed provisions
          | listed => exact .listed endpoint provisions

theorem actionEffect (crypto : Crypto Key)
    (bound : request.endpoint.actionArguments = some actionArguments) :
    ActionEffect crypto request executor db ((SecretsController.invoke crypto request
      (SetExecutorFilter.setExecutor executor actionArguments)).run.run db) := by
  cases endpoint : request.endpoint with
  | createSecret body =>
      rw [endpoint] at bound
      obtain ⟨body, rfl, _, rfl⟩ := Endpoint.createSecret_bound bound
      rw [invoke_createSecret endpoint]
      have effect := (ServiceCall.createSecret request.generated
        { body with executor }).effect crypto db
      generalize ((ServiceCall.createSecret request.generated
        { body with executor }).program crypto).run db = ran at effect ⊢
      obtain ⟨outcome, next⟩ := ran
      cases effect with
      | failed => exact .failed .nobody
      | created prepared known absent => exact .created endpoint prepared absent
  | revealSecret body =>
      rw [endpoint] at bound
      obtain ⟨body, rfl, _, rfl⟩ := Endpoint.revealSecret_bound bound
      rw [invoke_revealSecret endpoint]
      have effect := (ServiceCall.revealAndDisposeSecret request.generated body).effect
        crypto db
      generalize ((ServiceCall.revealAndDisposeSecret request.generated body).program
        crypto).run db = ran at effect ⊢
      obtain ⟨outcome, next⟩ := ran
      cases effect with
      | failed => exact .failed .nobody
      | revealed accepted found opened => exact .revealed endpoint
  | getSecretsCreatedByUser =>
      rw [endpoint] at bound
      cases bound
      exact actionEffect_get crypto endpoint

theorem Attributed.action (attributed : Attributed collation log db)
    {ran : ApiOutcome × Db} (effect : ActionEffect crypto request executor db ran)
    (actsAs : ActsAs db request.user (executor.map Executor.userId)) :
    Attributed collation (log ++ [(request, ran.1)]) ran.2 := by
  cases effect with
  | failed provisions => exact (provisions.attributed attributed).quiet .of_error
  | created endpoint prepared absent =>
      obtain ⟨_, rfl⟩ := entity_of_prepare prepared
      exact attributed.created endpoint rfl actsAs absent
  | revealed endpoint => exact attributed.revealed endpoint
  | listed endpoint provisions =>
      exact (provisions.attributed attributed).quiet (.of_get endpoint)

theorem Attributed.step (attributed : Attributed collation log db) (request : ApiRequest) :
    Attributed collation (log ++ [(request, ((request.program crypto).run db).1)])
      ((request.program crypto).run db).2 := by
  have handled := handled crypto request db
  generalize (request.program crypto).run db = ran at handled ⊢
  cases handled with
  | unbound => exact attributed.quiet .of_invalidModelState
  | refused bound effect =>
      exact ((provisions_of_effect effect).attributed attributed).quiet .of_error
  | granted bound effect =>
      exact ((provisions_of_effect effect).attributed attributed).action
        (actionEffect crypto bound) (actsAs_of_effect effect)

end Steps

end SecretServer.Api
