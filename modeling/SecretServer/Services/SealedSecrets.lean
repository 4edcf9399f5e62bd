import SecretServer.Services.ServiceCalls

namespace SecretServer

open Text

/-- The deadline that the service gives a secret of each lifetime. -/
def TimeToLive.deadline (lifetime : TimeToLive) (createdAt : DateTime) :
    Except Exception DateTime :=
  match lifetime with
  | .hour => createdAt.addHours 1
  | .day => createdAt.addDays 1
  | .week => createdAt.addHours 1

def TimeToLive.grantedTicks : TimeToLive → Nat
  | .hour => DateTime.ticksPerHour
  | .day => DateTime.ticksPerDay
  | .week => DateTime.ticksPerHour

theorem TimeToLive.deadline_eq_add (lifetime : TimeToLive) (createdAt : DateTime) :
    lifetime.deadline createdAt = createdAt.add lifetime.grantedTicks := by
  cases lifetime with
  | hour => rw [deadline, DateTime.addHours, Nat.one_mul, grantedTicks]
  | day => rw [deadline, DateTime.addDays, Nat.one_mul, grantedTicks]
  | week => rw [deadline, DateTime.addHours, Nat.one_mul, grantedTicks]

theorem TimeToLive.deadline_of_le {lifetime : TimeToLive} {createdAt : DateTime}
    (inRange : createdAt.ticks + lifetime.grantedTicks ≤ DateTime.maxTicks) :
    lifetime.deadline createdAt =
      .ok ⟨createdAt.ticks + lifetime.grantedTicks, createdAt.kind, inRange⟩ := by
  rw [lifetime.deadline_eq_add, DateTime.add_of_le inRange]

theorem TimeToLive.deadline_of_lt {lifetime : TimeToLive} {createdAt : DateTime}
    (beyond : DateTime.maxTicks < createdAt.ticks + lifetime.grantedTicks) :
    lifetime.deadline createdAt = .error (.argumentOutOfRange "value") := by
  rw [lifetime.deadline_eq_add, DateTime.add_of_lt beyond]

namespace Services

open Data Database EncryptionService FluentValidation SecretService

/-! What a create call seals, and what a reveal call makes of a sealed secret. -/

structure Contents where
  plaintext : Utf16
  passphrase : Utf16
  lifetime : TimeToLive
  salt : Salt
  nonce : Nonce
  plaintext_ne_nil : plaintext ≠ []
  acceptable : AcceptablePassphrase (some passphrase)

theorem text_ne_nil : Utf16.ofString "text" ≠ [] := by decide

theorem pass_acceptable : AcceptablePassphrase (some (Utf16.ofString "pass")) := by decide

/-- The row is a secret with these contents, sealed under its passphrase. -/
structure Holds {Key : Type} (crypto : Crypto Key) (secret : Secret)
    (contents : Contents) : Prop where
  ttl : secret.ttl = some contents.lifetime.getStringValue
  value : secret.value =
    envelope crypto contents.plaintext contents.passphrase contents.salt contents.nonce

structure Asks (request : CreateSecretRequest) (generated : Generated)
    (contents : Contents) : Prop where
  secret : request.secret = some contents.plaintext
  passphrase : request.passphrase = some contents.passphrase
  ttl : request.ttl = some contents.lifetime.getStringValue
  salt : contents.salt = generated.salt
  nonce : contents.nonce = generated.nonce

theorem AcceptablePassphrase.ne_nil {passphrase : Utf16}
    (acceptable : AcceptablePassphrase (some passphrase)) : passphrase ≠ [] := by
  obtain ⟨text, same, nonempty⟩ := acceptable.exists_text
  exact Option.some.inj same ▸ nonempty

theorem Asks.validate_eq_nil {request : CreateSecretRequest} {generated : Generated}
    {contents : Contents} (asks : Asks request generated contents) :
    CreateSecretRequestValidator.validate request = [] :=
  CreateSecretRequestValidator.validate_eq_nil_iff.mpr
    ⟨asks.passphrase ▸ contents.acceptable, contents.lifetime, asks.ttl⟩

theorem exists_asks {request : CreateSecretRequest} (generated : Generated)
    (accepted : CreateSecretRequestValidator.validate request = [])
    (present : Utf16.isNullOrEmpty request.secret = false) :
    ∃ contents, Asks request generated contents := by
  obtain ⟨acceptable, lifetime, ttl⟩ :=
    CreateSecretRequestValidator.validate_eq_nil_iff.mp accepted
  obtain ⟨plaintext, secret, nonempty⟩ := Utf16.isNullOrEmpty_eq_false_iff.mp present
  obtain ⟨passphrase, same, _⟩ := acceptable.exists_text
  exact ⟨⟨plaintext, passphrase, lifetime, generated.salt, generated.nonce, nonempty,
    same ▸ acceptable⟩, secret, same, ttl, rfl, rfl⟩

@[simp] theorem validateAndThrow_nil : validateAndThrow [] = .ok () := rfl

theorem validateAndThrow_of_ne_nil {errors : List ValidationFailure}
    (failed : errors ≠ []) : validateAndThrow errors = .error (.validation errors) := by
  simp [validateAndThrow, failed]

section Create

variable {Key : Type} {crypto : Crypto Key} {generated : Generated}
  {request : CreateSecretRequest}

theorem prepare_of_invalid
    (failed : CreateSecretRequestValidator.validate request ≠ []) :
    prepare crypto generated request =
      .error (.validation (CreateSecretRequestValidator.validate request)) := by
  rw [prepare, validateAndThrow_of_ne_nil failed]
  rfl

theorem prepare_of_missing
    (accepted : CreateSecretRequestValidator.validate request = [])
    (missing : Utf16.isNullOrEmpty request.secret = true) :
    prepare crypto generated request =
      .error (.argument ⟨"Plaintext cannot be null or empty", []⟩ (some "plaintext")) := by
  rw [prepare, accepted, validateAndThrow_nil, encrypt, if_pos missing]
  rfl

def sealedSecret (crypto : Crypto Key) (generated : Generated)
    (request : CreateSecretRequest) (contents : Contents) : Secret :=
  (request.toEntity generated.newGuid (envelope crypto contents.plaintext
    contents.passphrase contents.salt contents.nonce)).stamped generated.utcNow

theorem prepare_of_asks {contents : Contents} (lawful : crypto.Lawful)
    (asks : Asks request generated contents) :
    prepare crypto generated request =
      .ok (sealedSecret crypto generated request contents) := by
  rw [prepare, asks.validate_eq_nil, validateAndThrow_nil, asks.secret, asks.passphrase,
    ← asks.salt, ← asks.nonce,
    encrypt_eq_ok lawful contents.plaintext_ne_nil contents.acceptable.ne_nil]
  rfl

theorem run_createSecret_of_asks {contents : Contents} (lawful : crypto.Lawful)
    (asks : Asks request generated contents) {db : Db}
    (known : db.ReferencesUser (request.executor.map Executor.userId))
    (absent : db.secrets.find?
      (sealedSecret crypto generated request contents).materialized.id = none) :
    ((ServiceCall.createSecret generated request).program crypto).run db =
      (.ok (.createSecret
        (toCreateResponse (sealedSecret crypto generated request contents))),
        db.withSecrets (db.secrets.insert
          (sealedSecret crypto generated request contents).materialized absent)) := by
  have labelled : (sealedSecret crypto generated request contents).ttl ≠ none := by
    change request.ttl ≠ none
    simp [asks.ttl]
  have inserted := Db.insertSecret_eq_ok_iff.mpr ⟨labelled, known, absent, rfl⟩
  rw [ServiceCall.run_createSecret, prepare_of_asks lawful asks]
  dsimp only [ServiceCall.insert]
  rw [inserted]
  rfl

theorem asks_of_prepare {secret : Secret}
    (prepared : prepare crypto generated request = .ok secret) :
    ∃ contents, Asks request generated contents := by
  by_cases accepted : CreateSecretRequestValidator.validate request = []
  · cases missing : Utf16.isNullOrEmpty request.secret with
    | true => simp [prepare_of_missing accepted missing] at prepared
    | false => exact exists_asks generated accepted missing
  · simp [prepare_of_invalid accepted] at prepared

theorem holds_sealedSecret {contents : Contents}
    (asks : Asks request generated contents) :
    Holds crypto (sealedSecret crypto generated request contents) contents :=
  ⟨asks.ttl, rfl⟩

end Create

theorem Holds.materialized {Key : Type} {crypto : Crypto Key} {secret : Secret}
    {contents : Contents} (holds : Holds crypto secret contents) :
    Holds crypto secret.materialized contents :=
  ⟨holds.ttl, holds.value⟩

section Reveal

variable {Key : Type} {crypto : Crypto Key} {request : RevealSecretRequest}

theorem precheck_of_invalid
    (failed : RevealSecretRequestValidator.validate request ≠ []) :
    precheck request =
      .error (.validation (RevealSecretRequestValidator.validate request)) := by
  rw [precheck, validateAndThrow_of_ne_nil failed]
  rfl

theorem precheck_of_empty
    (accepted : RevealSecretRequestValidator.validate request = [])
    (empty : request.guid = Guid.empty) :
    precheck request =
      .error (.argument ⟨"The provided GUID is empty.", []⟩ (some "uid")) := by
  rw [precheck, accepted, validateAndThrow_nil, if_pos empty]
  rfl

theorem precheck_of_valid
    (accepted : RevealSecretRequestValidator.validate request = [])
    (named : request.guid ≠ Guid.empty) : precheck request = .ok () := by
  rw [precheck, accepted, validateAndThrow_nil, if_neg named]
  rfl

theorem precheck_eq_ok_iff :
    precheck request = .ok () ↔
      AcceptablePassphrase request.passphrase ∧ request.guid ≠ Guid.empty := by
  rw [← RevealSecretRequestValidator.validate_eq_nil_iff]
  by_cases accepted : RevealSecretRequestValidator.validate request = []
  · by_cases empty : request.guid = Guid.empty
    · simp [precheck_of_empty accepted empty, empty]
    · simp [precheck_of_valid accepted empty, accepted, empty]
  · simp [precheck_of_invalid accepted, accepted]

theorem getAtTheLatest_of_label {secret : Secret} {lifetime : TimeToLive}
    (ttl : secret.ttl = some lifetime.getStringValue) :
    getAtTheLatest secret = lifetime.deadline secret.createdAt := by
  unfold getAtTheLatest
  rw [ttl]
  cases lifetime with
  | hour => simp [TimeToLive.deadline]
  | day => simp [TimeToLive.deadline, TimeToLive.getStringValue_inj]
  | week => simp [TimeToLive.deadline, TimeToLive.getStringValue_inj]

variable {utcNow : DateTime} {secret : Secret} {contents : Contents}

theorem decrypt_of_openSecret {response : RevealSecretResponse}
    (opened : openSecret crypto utcNow request secret = .ok response) :
    ∃ latestTime, getAtTheLatest secret = .ok latestTime ∧
      utcNow.ticks ≤ latestTime.ticks ∧
      decrypt crypto (some secret.value) request.passphrase = .ok response.password := by
  unfold openSecret at opened
  cases deadline : getAtTheLatest secret with
  | error exception =>
      rw [deadline] at opened
      cases opened
  | ok latestTime =>
      rw [deadline] at opened
      change (if latestTime.ticks < utcNow.ticks then _ else _) = _ at opened
      split at opened
      next => cases opened
      next inTime =>
        refine ⟨latestTime, rfl, Nat.not_lt.mp inTime, ?_⟩
        cases decrypted : decrypt crypto (some secret.value) request.passphrase with
        | error exception =>
            rw [decrypted] at opened
            cases opened
        | ok text =>
            rw [decrypted] at opened
            cases opened
            rfl

theorem openSecret_of_overflow {exception : Exception}
    (holds : Holds crypto secret contents)
    (overflow : contents.lifetime.deadline secret.createdAt = .error exception) :
    openSecret crypto utcNow request secret = .error exception := by
  rw [openSecret, getAtTheLatest_of_label holds.ttl, overflow]
  rfl

theorem openSecret_of_expired {latestTime : DateTime}
    (holds : Holds crypto secret contents)
    (deadline : contents.lifetime.deadline secret.createdAt = .ok latestTime)
    (late : latestTime.ticks < utcNow.ticks) :
    openSecret crypto utcNow request secret =
      .error (expired request.guid secret.createdAt latestTime) := by
  rw [openSecret, getAtTheLatest_of_label holds.ttl, deadline]
  exact if_pos late

theorem openSecret_of_inTime {latestTime : DateTime}
    (holds : Holds crypto secret contents)
    (deadline : contents.lifetime.deadline secret.createdAt = .ok latestTime)
    (inTime : utcNow.ticks ≤ latestTime.ticks) :
    openSecret crypto utcNow request secret =
      (decrypt crypto (some secret.value) request.passphrase).map
        (toRevealResponse secret) := by
  rw [openSecret, getAtTheLatest_of_label holds.ttl, deadline]
  change (if latestTime.ticks < utcNow.ticks then _ else _) = _
  rw [if_neg (Nat.not_lt.mpr inTime)]
  cases decrypt crypto (some secret.value) request.passphrase <;> rfl

/-- The presented passphrase derives the key under which the contents are sealed. -/
def Contents.Unlocks (crypto : Crypto Key) (contents : Contents)
    (presented : Option Utf16) : Prop :=
  ∃ passphrase ∈ presented, deriveKey crypto passphrase contents.salt.toList =
    deriveKey crypto contents.passphrase contents.salt.toList

theorem Contents.unlocks_self (crypto : Crypto Key) (contents : Contents) :
    contents.Unlocks crypto (some contents.passphrase) :=
  ⟨contents.passphrase, rfl, rfl⟩

theorem openSecret_unlocked (lawful : crypto.Lawful) {latestTime : DateTime}
    (holds : Holds crypto secret contents)
    (deadline : contents.lifetime.deadline secret.createdAt = .ok latestTime)
    (inTime : utcNow.ticks ≤ latestTime.ticks)
    (acceptable : AcceptablePassphrase request.passphrase)
    (unlocks : contents.Unlocks crypto request.passphrase) :
    openSecret crypto utcNow request secret =
      .ok ⟨Utf8.getString (Utf8.getBytes contents.plaintext)⟩ := by
  obtain ⟨passphrase, presented, sameKey⟩ := unlocks
  rw [Option.mem_def] at presented
  rw [presented] at acceptable
  rw [openSecret_of_inTime holds deadline inTime, holds.value, presented,
    decrypt_sameKey lawful contents.plaintext contents.passphrase acceptable.ne_nil
      contents.salt contents.nonce sameKey]
  rfl

/-- The contents do not open under the key that the passphrase derives. -/
def Contents.Resists (crypto : Crypto Key) (contents : Contents) (passphrase : Utf16) :
    Prop :=
  crypto.decrypt (deriveKey crypto passphrase contents.salt.toList) contents.nonce.toList
    (sealedBytes crypto contents.plaintext contents.passphrase contents.salt
      contents.nonce).1
    (sealedBytes crypto contents.plaintext contents.passphrase contents.salt
      contents.nonce).2 = none

/-- What AES-GCM is idealised to, for these contents: any other key is refused. -/
def Contents.OpensRightly (crypto : Crypto Key) (contents : Contents)
    (presented : Option Utf16) : Prop :=
  ∀ passphrase ∈ presented, ¬ contents.Unlocks crypto presented →
    contents.Resists crypto passphrase

theorem openSecret_locked (lawful : crypto.Lawful) {latestTime : DateTime}
    (holds : Holds crypto secret contents)
    (deadline : contents.lifetime.deadline secret.createdAt = .ok latestTime)
    (inTime : utcNow.ticks ≤ latestTime.ticks)
    (acceptable : AcceptablePassphrase request.passphrase)
    (resists : ∀ passphrase ∈ request.passphrase, contents.Resists crypto passphrase) :
    openSecret crypto utcNow request secret =
      .error (.unauthorizedAccess
        ⟨"Decryption failed. Invalid passphrase or corrupted data.", []⟩) := by
  obtain ⟨passphrase, presented, nonempty⟩ := acceptable.exists_text
  rw [openSecret_of_inTime holds deadline inTime, holds.value, presented,
    decrypt_otherKey lawful contents.plaintext contents.passphrase nonempty
      contents.salt contents.nonce (resists passphrase presented)]
  rfl

/-- What a reveal fails with when its passphrase does not open the secret. -/
def refusal (deadline : Except Exception DateTime) (utcNow createdAt : DateTime)
    (guid : Guid) : Exception :=
  match deadline with
  | .error exception => exception
  | .ok latestTime =>
      if latestTime.ticks < utcNow.ticks then expired guid createdAt latestTime
      else .unauthorizedAccess
        ⟨"Decryption failed. Invalid passphrase or corrupted data.", []⟩

theorem openSecret_refused (lawful : crypto.Lawful)
    (holds : Holds crypto secret contents)
    (acceptable : AcceptablePassphrase request.passphrase)
    (resists : ∀ passphrase ∈ request.passphrase, contents.Resists crypto passphrase) :
    openSecret crypto utcNow request secret =
      .error (refusal (contents.lifetime.deadline secret.createdAt) utcNow
        secret.createdAt request.guid) := by
  cases deadline : contents.lifetime.deadline secret.createdAt with
  | error exception => exact openSecret_of_overflow holds deadline
  | ok latestTime =>
      rcases Nat.lt_or_ge latestTime.ticks utcNow.ticks with late | inTime
      · rw [openSecret_of_expired holds deadline late, refusal, if_pos late]
      · rw [openSecret_locked lawful holds deadline inTime acceptable resists, refusal,
          if_neg (Nat.not_lt.mpr inTime)]

end Reveal

/-! AES-GCM is idealised only as far as the calls of a run use it. -/

/-- None of these contents opens under a key that one of these passphrases derives, other
than the key that it is sealed under. -/
structure Crypto.Ideal {Key : Type} (crypto : Crypto Key) (presented : Set Utf16)
    (kept : Set Contents) : Prop extends crypto.Lawful where
  wrong_key : ∀ passphrase ∈ presented, ∀ contents ∈ kept,
    ¬ contents.Unlocks crypto (some passphrase) → contents.Resists crypto passphrase

theorem Crypto.Ideal.opensRightly {Key : Type} {crypto : Crypto Key}
    {presented : Set Utf16} {kept : Set Contents} (ideal : crypto.Ideal presented kept)
    {passphrase? : Option Utf16} (asked : ∀ passphrase ∈ passphrase?, passphrase ∈ presented)
    {contents : Contents} (member : contents ∈ kept) :
    contents.OpensRightly crypto passphrase? := by
  intro passphrase presents locked
  rw [Option.mem_def.mp presents] at locked
  exact ideal.wrong_key passphrase (asked passphrase presents) contents member locked

theorem Crypto.byteSum_ideal (presented : Set Utf16) (kept : Set Contents) :
    Crypto.byteSum.Ideal presented kept where
  toLawful := Crypto.byteSum_lawful
  wrong_key := by
    intro passphrase _ contents _ locked
    apply Crypto.byteSum_wrong_key
    intro sameKey
    exact locked ⟨passphrase, rfl, sameKey⟩

namespace ServiceCall

/-- The call is a reveal with this passphrase. -/
def Presents (call : ServiceCall) (passphrase : Utf16) : Prop :=
  ∃ generated request, call = .revealAndDisposeSecret generated request ∧
    request.passphrase = some passphrase

/-- The call is a creation that asks to keep these contents. -/
def AsksFor (call : ServiceCall) (contents : Contents) : Prop :=
  ∃ generated request, call = .createSecret generated request ∧
    Asks request generated contents

end ServiceCall

end Services

end SecretServer
