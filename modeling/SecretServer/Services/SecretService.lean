import SecretServer.DataLayer.Repositories
import SecretServer.Services.Envelope
import SecretServer.Services.Validators

namespace SecretServer.Services

open Text Concurrency Database DataLayer FluentValidation

structure CreateSecretResponse where
  guid : Guid
  createdAt : DateTime
  deriving DecidableEq

structure RevealSecretResponse where
  password : Utf16
  deriving DecidableEq

structure SecretGridResponse where
  guid : Guid
  ttl : Option Utf16
  createdAt : DateTime
  deriving DecidableEq

/-- What one call takes from outside: a new id, random bytes, and the readings of
`DateTime.UtcNow` in the order in which they are made. -/
structure Generated where
  newGuid : NewGuid
  salt : EncryptionService.Salt
  nonce : EncryptionService.Nonce
  utcNow : Nat → DateTime

instance : Inhabited Generated :=
  ⟨⟨⟨1, Guid.one_ne_empty⟩, Vector.replicate _ 0, Vector.replicate _ 0, fun _ => .minValue⟩⟩

/-! `SecretsMappingProfile`. -/

def CreateSecretRequest.toEntity (request : CreateSecretRequest) (newGuid : NewGuid)
    (encryptedValue : Utf16) : Secret where
  id := newGuid.value
  ttl := request.ttl
  value := encryptedValue
  userId := request.executor.map Executor.userId

def toCreateResponse (secret : Secret) : CreateSecretResponse where
  guid := secret.id
  createdAt := secret.createdAt

def toRevealResponse (_secret : Secret) (decryptedValue : Utf16) :
    RevealSecretResponse where
  password := decryptedValue

def toGridResponse (secret : Secret) : SecretGridResponse where
  guid := secret.id
  ttl := secret.ttl
  createdAt := secret.createdAt

namespace SecretService

variable {Key : Type} (crypto : Crypto Key)

def createSecret (generated : Generated) (request : CreateSecretRequest) :
    DbTask CreateSecretResponse := do
  DbTask.ofExcept (validateAndThrow (CreateSecretRequestValidator.validate request))
  let encryptedValue ← DbTask.ofExcept
    (EncryptionService.encrypt crypto request.secret request.passphrase
      generated.salt generated.nonce)
  let secret ← SecretRepository.createAsync generated.utcNow
    (request.toEntity generated.newGuid encryptedValue)
  return toCreateResponse secret

def unrecognizedTtl (timeToLive : Option Utf16) : Exception :=
  .applicationLogic
    ⟨"The 'Ttl' field was not recognized as a valid TimeToLive value: {0}.",
      [.string timeToLive]⟩

def getAtTheLatest (secret : Secret) : Except Exception DateTime :=
  if secret.ttl = some TimeToLive.hour.getStringValue then
    secret.createdAt.addHours 1
  else if secret.ttl = some TimeToLive.day.getStringValue then
    secret.createdAt.addDays 1
  else if secret.ttl = some TimeToLive.week.getStringValue then
    -- one hour, as for the label "hour"
    secret.createdAt.addHours 1
  else
    .error (unrecognizedTtl secret.ttl)

def notFound (guid : Guid) : Exception :=
  .keyNotFound ⟨"Secret with GUID {0} not found.", [.guid guid]⟩

def expired (guid : Guid) (createdAt latestTime : DateTime) : Exception :=
  .applicationLogic
    ⟨"The secret with GUID {0} has expired. It was created at {1} and is valid until {2}.",
      [.guid guid, .dateTime createdAt, .dateTime latestTime]⟩

/-- What `RevealAndDisposeSecret` does between its two accesses. -/
def openSecret (utcNow : DateTime) (request : RevealSecretRequest) (secret : Secret) :
    Except Exception RevealSecretResponse := do
  let latestTime ← getAtTheLatest secret
  if latestTime.ticks < utcNow.ticks then
    .error (expired request.guid secret.createdAt latestTime)
  else
    let decryptedValue ←
      EncryptionService.decrypt crypto (some secret.value) request.passphrase
    return toRevealResponse secret decryptedValue

def revealAndDisposeSecret (generated : Generated) (request : RevealSecretRequest) :
    DbTask RevealSecretResponse := do
  DbTask.ofExcept (validateAndThrow (RevealSecretRequestValidator.validate request))
  match ← SecretRepository.tryGetByGuidAsync request.guid with
  | none => DbTask.ofExcept (.error (notFound request.guid))
  | some secret =>
      let response ← DbTask.ofExcept
        (openSecret crypto (generated.utcNow 0) request secret)
      let _ ← SecretRepository.deleteAsync (fun reading => generated.utcNow (reading + 1))
        secret
      return response

def getSecretsCreatedByUser (request : BaseAuthenticatedRequest) :
    DbTask (List SecretGridResponse) := do
  let secrets ← SecretRepository.getAllCreatedByUserAsync request.executor.userId
  return secrets.map toGridResponse

/-! Each method, brought to the few accesses it makes. -/

def prepare (generated : Generated) (request : CreateSecretRequest) :
    Except Exception Secret := do
  validateAndThrow (CreateSecretRequestValidator.validate request)
  let encryptedValue ← EncryptionService.encrypt crypto request.secret
    request.passphrase generated.salt generated.nonce
  return (request.toEntity generated.newGuid encryptedValue).stamped generated.utcNow

/-- The checks that `RevealAndDisposeSecret` makes before it looks anything up. -/
def precheck (request : RevealSecretRequest) : Except Exception Unit := do
  validateAndThrow (RevealSecretRequestValidator.validate request)
  if request.guid = Guid.empty then
    .error (.argument ⟨"The provided GUID is empty.", []⟩ (some "uid"))
  else
    .ok ()

theorem entity_of_prepare {crypto : Crypto Key} {generated : Generated}
    {request : CreateSecretRequest} {secret : Secret}
    (prepared : prepare crypto generated request = .ok secret) :
    ∃ encryptedValue, secret =
      (request.toEntity generated.newGuid encryptedValue).stamped generated.utcNow := by
  unfold prepare at prepared
  cases accepted : validateAndThrow (CreateSecretRequestValidator.validate request) with
  | error exception =>
      rw [accepted] at prepared
      cases prepared
  | ok _ =>
      rw [accepted] at prepared
      cases encrypted : EncryptionService.encrypt crypto request.secret
          request.passphrase generated.salt generated.nonce with
      | error exception =>
          rw [encrypted] at prepared
          cases prepared
      | ok encryptedValue =>
          rw [encrypted] at prepared
          cases prepared
          exact ⟨encryptedValue, rfl⟩

theorem createSecret_eq (generated : Generated) (request : CreateSecretRequest) :
    createSecret crypto generated request =
      match prepare crypto generated request with
      | .error exception => DbTask.ofExcept (.error exception)
      | .ok secret => DbTask.statement fun db =>
          (db.insertSecret secret).map fun next => (toCreateResponse secret, next) := by
  unfold createSecret prepare
  cases validateAndThrow (CreateSecretRequestValidator.validate request) with
  | error exception => rfl
  | ok _ =>
      cases EncryptionService.encrypt crypto request.secret request.passphrase
          generated.salt generated.nonce with
      | error exception => rfl
      | ok encryptedValue =>
          change (SecretRepository.createAsync generated.utcNow _ >>= _) = _
          rw [SecretRepository.createAsync_eq, DbTask.statement_bind_pure]
          change DbTask.statement _ = DbTask.statement _
          congr 1
          funext db
          cases db.insertSecret ((request.toEntity generated.newGuid
            encryptedValue).stamped generated.utcNow) <;> rfl

theorem revealAndDisposeSecret_eq (generated : Generated)
    (request : RevealSecretRequest) :
    revealAndDisposeSecret crypto generated request =
      match precheck request with
      | .error exception => DbTask.ofExcept (.error exception)
      | .ok _ => DbTask.query (fun db => db.secrets.find? request.guid) >>= fun
          | none => DbTask.ofExcept (.error (notFound request.guid))
          | some secret =>
              match openSecret crypto (generated.utcNow 0) request secret with
              | .error exception => DbTask.ofExcept (.error exception)
              | .ok response => DbTask.statement fun db =>
                  (db.deleteSecret secret.id).map fun next => (response, next) := by
  unfold revealAndDisposeSecret precheck SecretRepository.tryGetByGuidAsync
  cases validateAndThrow (RevealSecretRequestValidator.validate request) with
  | error exception => rfl
  | ok _ =>
      by_cases empty : request.guid = Guid.empty
      · simp only [empty, if_true]
        rfl
      · simp only [empty, if_false]
        change (DbTask.query _ >>= _) = (DbTask.query _ >>= _)
        congr 1
        funext found
        cases found with
        | none => rfl
        | some secret =>
            cases opened : openSecret crypto (generated.utcNow 0) request secret with
            | error exception => simp only [opened, DbTask.ofExcept_error_bind]
            | ok response =>
                simp only [opened, DbTask.ofExcept_ok_bind]
                rw [SecretRepository.deleteAsync_eq, DbTask.statement_bind_pure]
                congr 1
                funext db
                cases db.deleteSecret secret.id <;> rfl

end SecretService

end SecretServer.Services
