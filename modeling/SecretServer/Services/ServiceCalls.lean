import SecretServer.Services.SecretService

namespace SecretServer.Services

open Text Data Concurrency Database DataLayer

/-! The calls of `ISecretService`, each as a program on a context of its own. -/

inductive ServiceCall where
  | createSecret (generated : Generated) (request : CreateSecretRequest)
  | revealAndDisposeSecret (generated : Generated) (request : RevealSecretRequest)
  | getSecretsCreatedByUser (request : BaseAuthenticatedRequest)

inductive ServiceResponse where
  | createSecret (response : CreateSecretResponse)
  | revealSecret (response : RevealSecretResponse)
  | secretsCreatedByUser (response : List SecretGridResponse)
  deriving DecidableEq

abbrev ServiceOutcome := Except Exception ServiceResponse

namespace ServiceCall

open SecretService

variable {Key : Type} (crypto : Crypto Key)

def task : ServiceCall → DbTask ServiceResponse
  | .createSecret generated request =>
      .createSecret <$> SecretService.createSecret crypto generated request
  | .revealAndDisposeSecret generated request =>
      .revealSecret <$> SecretService.revealAndDisposeSecret crypto generated request
  | .getSecretsCreatedByUser request =>
      .secretsCreatedByUser <$> SecretService.getSecretsCreatedByUser request

def program (call : ServiceCall) : Program Db ServiceOutcome := (call.task crypto).run

def insert (secret : Secret) (db : Db) : ServiceOutcome × Db :=
  DbTask.commit ((db.insertSecret secret).map fun next =>
    (.createSecret (toCreateResponse secret), next)) db

def dispose (secret : Secret) (response : RevealSecretResponse) (db : Db) :
    ServiceOutcome × Db :=
  DbTask.commit ((db.deleteSecret secret.id).map fun next =>
    (.revealSecret response, next)) db

def afterLookup (generated : Generated) (request : RevealSecretRequest) :
    Option Secret → Program Db ServiceOutcome
  | none => .done (.error (notFound request.guid))
  | some secret =>
      match openSecret crypto (generated.utcNow 0) request secret with
      | .error exception => .done (.error exception)
      | .ok response => Program.atomically (dispose secret response)

def listing (userId : Guid) (db : Db) : List SecretGridResponse :=
  (db.secrets.rows.filter fun secret => secret.userId = some userId).map toGridResponse

theorem program_createSecret (generated : Generated) (request : CreateSecretRequest) :
    (ServiceCall.createSecret generated request).program crypto =
      match prepare crypto generated request with
      | .error exception => .done (.error exception)
      | .ok secret => Program.atomically (insert secret) := by
  unfold program task
  dsimp only
  rw [createSecret_eq]
  cases prepare crypto generated request with
  | error exception => rfl
  | ok secret =>
      change Program.access _ _ = Program.access _ _
      congr 1
      · funext db
        dsimp only [insert]
        cases db.insertSecret secret <;> rfl
      · funext db
        dsimp only [insert]
        cases db.insertSecret secret <;> rfl

theorem program_reveal (generated : Generated) (request : RevealSecretRequest) :
    (ServiceCall.revealAndDisposeSecret generated request).program crypto =
      match precheck request with
      | .error exception => .done (.error exception)
      | .ok _ => .access id fun db =>
          afterLookup crypto generated request (db.secrets.find? request.guid) := by
  unfold program task
  dsimp only
  rw [revealAndDisposeSecret_eq]
  cases precheck request with
  | error exception => rfl
  | ok _ =>
      change Program.access _ _ = Program.access _ _
      congr 1
      funext db
      dsimp only
      cases db.secrets.find? request.guid with
      | none => rfl
      | some secret =>
          dsimp only [afterLookup, Program.bind, ExceptT.bindCont]
          cases openSecret crypto (generated.utcNow 0) request secret with
          | error exception => rfl
          | ok response =>
              change Program.access _ _ = Program.access _ _
              congr 1
              · funext db
                dsimp only [dispose]
                cases db.deleteSecret secret.id <;> rfl
              · funext db
                dsimp only [dispose]
                cases db.deleteSecret secret.id <;> rfl

theorem program_list (request : BaseAuthenticatedRequest) :
    (ServiceCall.getSecretsCreatedByUser request).program crypto =
      if request.executor.userId = Guid.empty then
        .done (.error
          (.argument ⟨"The provided user ID is empty.", []⟩ (some "userId")))
      else
        .access id fun db =>
          .done (.ok (.secretsCreatedByUser (listing request.executor.userId db))) := by
  unfold program task SecretService.getSecretsCreatedByUser
    SecretRepository.getAllCreatedByUserAsync
  dsimp only
  by_cases empty : request.executor.userId = Guid.empty
  · rw [if_pos empty, if_pos empty]
    rfl
  · rw [if_neg empty, if_neg empty]
    rfl

theorem run_createSecret (generated : Generated) (request : CreateSecretRequest)
    (db : Db) :
    ((ServiceCall.createSecret generated request).program crypto).run db =
      match prepare crypto generated request with
      | .error exception => (.error exception, db)
      | .ok secret => insert secret db := by
  rw [program_createSecret]
  cases prepare crypto generated request <;> rfl

theorem run_reveal (generated : Generated) (request : RevealSecretRequest) (db : Db) :
    ((ServiceCall.revealAndDisposeSecret generated request).program crypto).run db =
      match precheck request with
      | .error exception => (.error exception, db)
      | .ok _ => (afterLookup crypto generated request
          (db.secrets.find? request.guid)).run db := by
  rw [program_reveal]
  cases precheck request <;> rfl

theorem run_reveal_found {generated : Generated} {request : RevealSecretRequest}
    {db : Db} {secret : Secret} (accepted : precheck request = .ok ())
    (found : db.secrets.find? request.guid = some secret) :
    ((ServiceCall.revealAndDisposeSecret generated request).program crypto).run db =
      match openSecret crypto (generated.utcNow 0) request secret with
      | .error exception => (.error exception, db)
      | .ok response => (.ok (.revealSecret response),
          db.withSecrets (db.secrets.delete request.guid)) := by
  rw [run_reveal, accepted, found]
  dsimp only [afterLookup]
  cases openSecret crypto (generated.utcNow 0) request secret with
  | error exception => rfl
  | ok response =>
      have named := Table.key_of_find? found
      dsimp only
      rw [Program.run_atomically, dispose, Db.deleteSecret, named, if_pos (by simp [found])]
      rfl

/-! Run on its own, a call does one of four things. -/

inductive Effect : ServiceCall → Db → ServiceOutcome → Db → Prop
  | failed {call : ServiceCall} {db : Db} {exception : Exception} :
      Effect call db (.error exception) db
  | created {db : Db} {generated : Generated} {request : CreateSecretRequest}
      {secret : Secret} (prepared : prepare crypto generated request = .ok secret)
      (known : db.ReferencesUser secret.userId)
      (absent : db.secrets.find? secret.materialized.id = none) :
      Effect (.createSecret generated request) db
        (.ok (.createSecret (toCreateResponse secret)))
        (db.withSecrets (db.secrets.insert secret.materialized absent))
  | revealed {db : Db} {generated : Generated} {request : RevealSecretRequest}
      {secret : Secret} {response : RevealSecretResponse}
      (accepted : precheck request = .ok ())
      (found : db.secrets.find? request.guid = some secret)
      (opened : openSecret crypto (generated.utcNow 0) request secret = .ok response) :
      Effect (.revealAndDisposeSecret generated request) db
        (.ok (.revealSecret response))
        (db.withSecrets (db.secrets.delete request.guid))
  | listed {db : Db} {request : BaseAuthenticatedRequest}
      (identified : request.executor.userId ≠ Guid.empty) :
      Effect (.getSecretsCreatedByUser request) db
        (.ok (.secretsCreatedByUser (listing request.executor.userId db))) db

theorem effect (call : ServiceCall) (db : Db) :
    Effect crypto call db ((call.program crypto).run db).1
      ((call.program crypto).run db).2 := by
  cases call with
  | createSecret generated request =>
      rw [run_createSecret]
      cases prepared : prepare crypto generated request with
      | error exception => exact .failed
      | ok secret =>
          dsimp only [insert]
          cases inserted : db.insertSecret secret with
          | error exception => exact .failed
          | ok next =>
              obtain ⟨_, known, absent, rfl⟩ := Db.insertSecret_eq_ok_iff.mp inserted
              exact .created prepared known absent
  | revealAndDisposeSecret generated request =>
      cases accepted : precheck request with
      | error exception =>
          rw [run_reveal, accepted]
          exact .failed
      | ok _ =>
          cases found : db.secrets.find? request.guid with
          | none =>
              rw [run_reveal, accepted, found]
              exact .failed
          | some secret =>
              rw [run_reveal_found crypto accepted found]
              cases opened : openSecret crypto (generated.utcNow 0) request secret with
              | error exception => exact .failed
              | ok response => exact .revealed accepted found opened
  | getSecretsCreatedByUser request =>
      rw [program_list]
      by_cases empty : request.executor.userId = Guid.empty
      · rw [if_pos empty]
        exact .failed
      · rw [if_neg empty]
        exact .listed empty

theorem effect_of_run {call : ServiceCall} {db next : Db} {outcome : ServiceOutcome}
    (ran : (call.program crypto).run db = (outcome, next)) :
    Effect crypto call db outcome next := by
  have effect := call.effect crypto db
  rwa [ran] at effect

end ServiceCall

end SecretServer.Services
