import SecretServer.Services.SealedSecrets

namespace SecretServer.Services

open Text Data Concurrency Database EncryptionService SecretService

/-! Which accepted requests still run into a guard behind the validators. -/

variable {Key : Type}

def runHistory (crypto : Crypto Key) (history : List ServiceCall) (start : Db) : Db :=
  (runAll (fun call : ServiceCall => call.program crypto) history start).2

/-- The call ends in an `ArgumentException` or finds a label it does not know. -/
def HitsGuard (outcome : ServiceOutcome) : Prop :=
  ∃ exception, outcome = .error exception ∧
    (exception.isArgumentException = true ∨
      ∃ timeToLive, exception = unrecognizedTtl timeToLive)

/-- Every stored row is a secret of a known lifetime, sealed under its passphrase. -/
def AllSealed (crypto : Crypto Key) (db : Db) : Prop :=
  ∀ secret ∈ db.secrets.rows, ∃ contents, Holds crypto secret contents

variable {crypto : Crypto Key}

theorem AllSealed.step (lawful : crypto.Lawful) {db : Db} (allSealed : AllSealed crypto db)
    (call : ServiceCall) : AllSealed crypto ((call.program crypto).run db).2 := by
  generalize ran : (call.program crypto).run db = result
  obtain ⟨outcome, next⟩ := result
  cases ServiceCall.effect_of_run crypto ran with
  | failed => exact allSealed
  | listed => exact allSealed
  | created prepared _ absent =>
      intro secret member
      rcases (Table.mem_insert absent).mp member with old | rfl
      · exact allSealed secret old
      · obtain ⟨contents, asks⟩ := asks_of_prepare prepared
        rw [prepare_of_asks lawful asks] at prepared
        cases prepared
        exact ⟨contents, (holds_sealedSecret asks).materialized⟩
  | revealed =>
      intro secret member
      exact allSealed secret (Table.mem_delete.mp member).1

theorem allSealed_runHistory (lawful : crypto.Lawful) (history : List ServiceCall)
    {start : Db} (empty : start.secrets = Table.empty) :
    AllSealed crypto (runHistory crypto history start) := by
  refine runAll_invariant (fun call : ServiceCall => call.program crypto)
    (fun _ db => AllSealed crypto db) ?_
    (fun _ _ call allSealed => allSealed.step lawful call) history
  intro secret member
  rw [empty] at member
  cases member

theorem not_hitsGuard_ok (response : ServiceResponse) :
    ¬ HitsGuard (.ok response) := by
  intro ⟨_, failed, _⟩
  cases failed

theorem hitsGuard_error_iff {exception : Exception} :
    HitsGuard (.error exception) ↔ exception.isArgumentException = true ∨
      ∃ timeToLive, exception = unrecognizedTtl timeToLive := by
  constructor
  · intro ⟨_, same, guarded⟩
    cases same
    exact guarded
  · intro guarded
    exact ⟨exception, rfl, guarded⟩

theorem not_hitsGuard_expired (guid : Guid) (createdAt latestTime : DateTime) :
    ¬ HitsGuard (.error (expired guid createdAt latestTime)) := by
  rw [hitsGuard_error_iff]
  simp [expired, unrecognizedTtl, Exception.isArgumentException]

section Create

variable {generated : Generated} {request : CreateSecretRequest}

theorem hitsGuard_createSecret_iff (lawful : crypto.Lawful)
    (accepted : CreateSecretRequestValidator.validate request = []) (db : Db) :
    HitsGuard (((ServiceCall.createSecret generated request).program crypto).run db).1 ↔
      Utf16.isNullOrEmpty request.secret = true := by
  rw [ServiceCall.run_createSecret]
  cases missing : Utf16.isNullOrEmpty request.secret with
  | true =>
      rw [prepare_of_missing accepted missing]
      simp [hitsGuard_error_iff, Exception.isArgumentException]
  | false =>
      obtain ⟨contents, asks⟩ := exists_asks generated accepted missing
      rw [prepare_of_asks lawful asks]
      dsimp only [ServiceCall.insert]
      cases inserted : db.insertSecret (sealedSecret crypto generated request contents) with
      | ok next => exact iff_of_false (not_hitsGuard_ok _) (by simp)
      | error exception =>
          obtain ⟨constraint, rfl⟩ := Db.insertSecret_error inserted
          simp [Except.map, DbTask.commit, hitsGuard_error_iff, unrecognizedTtl,
            Exception.isArgumentException]

end Create

section Reveal

variable {generated : Generated} {request : RevealSecretRequest}

/-- What is stored under the id of a reveal has a deadline that a `DateTime` can hold. -/
def DeadlineInRange (db : Db) (guid : Guid) : Prop :=
  ∀ secret ∈ db.secrets.find? guid, ∀ lifetime : TimeToLive,
    secret.ttl = some lifetime.getStringValue →
      secret.createdAt.ticks + lifetime.grantedTicks ≤ DateTime.maxTicks

theorem hitsGuard_openSecret_iff (lawful : crypto.Lawful) {secret : Secret}
    {contents : Contents} (holds : Holds crypto secret contents)
    (acceptable : AcceptablePassphrase request.passphrase) (utcNow : DateTime) :
    HitsGuard ((openSecret crypto utcNow request secret).map .revealSecret) ↔
      DateTime.maxTicks < secret.createdAt.ticks + contents.lifetime.grantedTicks := by
  rcases Nat.lt_or_ge DateTime.maxTicks
      (secret.createdAt.ticks + contents.lifetime.grantedTicks) with beyond | inRange
  · rw [openSecret_of_overflow holds (TimeToLive.deadline_of_lt beyond)]
    simp [Except.map, hitsGuard_error_iff, Exception.isArgumentException, beyond]
  · refine iff_of_false ?_ (Nat.not_lt.mpr inRange)
    have deadline := TimeToLive.deadline_of_le inRange
    rcases Nat.lt_or_ge (secret.createdAt.ticks + contents.lifetime.grantedTicks)
        utcNow.ticks with late | inTime
    · rw [openSecret_of_expired holds deadline late]
      exact not_hitsGuard_expired _ _ _
    · obtain ⟨passphrase, presented, nonempty⟩ := acceptable.exists_text
      rw [openSecret_of_inTime holds deadline inTime, holds.value, presented,
        decrypt_envelope_eq lawful contents.plaintext contents.passphrase nonempty]
      split
      · exact not_hitsGuard_ok _
      · simp [Except.map, hitsGuard_error_iff, unrecognizedTtl,
          Exception.isArgumentException]

theorem hitsGuard_reveal_iff (lawful : crypto.Lawful) {db : Db}
    (allSealed : AllSealed crypto db)
    (accepted : RevealSecretRequestValidator.validate request = []) :
    HitsGuard
        (((ServiceCall.revealAndDisposeSecret generated request).program crypto).run
          db).1 ↔
      request.guid = Guid.empty ∨ ¬ DeadlineInRange db request.guid := by
  by_cases named : request.guid = Guid.empty
  · rw [ServiceCall.run_reveal, precheck_of_empty accepted named]
    simp [hitsGuard_error_iff, Exception.isArgumentException, named]
  · have checked := precheck_of_valid accepted named
    rw [or_iff_right named]
    cases found : db.secrets.find? request.guid with
    | none =>
        rw [ServiceCall.run_reveal, checked, found]
        simp [ServiceCall.afterLookup, hitsGuard_error_iff, notFound, unrecognizedTtl,
          Exception.isArgumentException, DeadlineInRange, found]
    | some secret =>
        obtain ⟨contents, holds⟩ := allSealed secret (Table.mem_of_find? found)
        have opens := hitsGuard_openSecret_iff lawful holds
          (RevealSecretRequestValidator.validate_eq_nil_iff.mp accepted)
          (generated.utcNow 0)
        have range : DeadlineInRange db request.guid ↔
            secret.createdAt.ticks + contents.lifetime.grantedTicks ≤
              DateTime.maxTicks := by
          constructor
          · intro inRange
            exact inRange secret found contents.lifetime holds.ttl
          · intro inRange other foundOther lifetime ttl
            rw [found] at foundOther
            cases foundOther
            rw [holds.ttl, Option.some.injEq, TimeToLive.getStringValue_inj] at ttl
            exact ttl ▸ inRange
        rw [ServiceCall.run_reveal_found crypto checked found, range, Nat.not_le, ← opens]
        cases openSecret crypto (generated.utcNow 0) request secret <;> rfl

end Reveal

theorem accepted_requests_hit_no_guard_iff (lawful : crypto.Lawful)
    (history : List ServiceCall) {start : Db} (empty : start.secrets = Table.empty)
    (generated : Generated) :
    (∀ request, CreateSecretRequestValidator.validate request = [] →
      (¬ HitsGuard (((ServiceCall.createSecret generated request).program crypto).run
          (runHistory crypto history start)).1 ↔
        Utf16.isNullOrEmpty request.secret = false)) ∧
      (∀ request, RevealSecretRequestValidator.validate request = [] →
        (¬ HitsGuard
            (((ServiceCall.revealAndDisposeSecret generated request).program crypto).run
              (runHistory crypto history start)).1 ↔
          request.guid ≠ Guid.empty ∧
            DeadlineInRange (runHistory crypto history start) request.guid)) := by
  refine ⟨?_, ?_⟩
  · intro request accepted
    rw [hitsGuard_createSecret_iff lawful accepted, Bool.not_eq_true]
  · intro request accepted
    rw [hitsGuard_reveal_iff lawful (allSealed_runHistory lawful history empty) accepted,
      not_or, not_not]

def emptySecretRequest : CreateSecretRequest where
  secret := some []
  ttl := some (Utf16.ofString "hour")
  passphrase := some (Utf16.ofString "pass")

theorem accepted_empty_secret_hits_guard :
    CreateSecretRequestValidator.validate emptySecretRequest = [] ∧
      HitsGuard (((ServiceCall.createSecret default emptySecretRequest).program
        Crypto.byteSum).run (runHistory Crypto.byteSum [] default)).1 := by
  have accepted : CreateSecretRequestValidator.validate emptySecretRequest = [] := by
    decide
  refine ⟨accepted, ?_⟩
  rw [hitsGuard_createSecret_iff Crypto.byteSum_lawful accepted]
  rfl

/-! A secret for a week, created at the first tick. -/

namespace WeekSecret

def contents : Contents where
  plaintext := Utf16.ofString "text"
  passphrase := Utf16.ofString "pass"
  lifetime := .week
  salt := (default : Generated).salt
  nonce := (default : Generated).nonce
  plaintext_ne_nil := text_ne_nil
  acceptable := pass_acceptable

def request : CreateSecretRequest where
  secret := some contents.plaintext
  ttl := some (Utf16.ofString "week")
  passphrase := some contents.passphrase

def secret : Secret := sealedSecret Crypto.byteSum default request contents

def created : Db :=
  (default : Db).withSecrets (Table.empty.insert secret.materialized rfl)

theorem asks : Asks request default contents := ⟨rfl, rfl, rfl, rfl, rfl⟩

theorem run_create : ((ServiceCall.createSecret default request).program
    Crypto.byteSum).run (runHistory Crypto.byteSum [] default) =
      (.ok (.createSecret (toCreateResponse secret)), created) :=
  run_createSecret_of_asks Crypto.byteSum_lawful asks (by simp [request,
    Db.ReferencesUser]) rfl

def history : List ServiceCall := [.createSecret default request]

theorem runHistory_history : runHistory Crypto.byteSum history default = created :=
  congrArg Prod.snd run_create

theorem deadlineInRange : DeadlineInRange created secret.id := by
  intro row found lifetime _
  cases found
  cases lifetime with
  | hour => decide
  | day => decide
  | week => decide

end WeekSecret

open WeekSecret in
theorem accepted_requests_hit_no_guard_iff_week :
    runHistory Crypto.byteSum history default = created ∧
      (¬ HitsGuard (((ServiceCall.createSecret default request).program
        Crypto.byteSum).run (runHistory Crypto.byteSum history default)).1) ∧
      HitsGuard (((ServiceCall.createSecret default emptySecretRequest).program
        Crypto.byteSum).run (runHistory Crypto.byteSum history default)).1 ∧
      (¬ HitsGuard (((ServiceCall.revealAndDisposeSecret default
        ⟨secret.id, request.passphrase⟩).program Crypto.byteSum).run
          (runHistory Crypto.byteSum history default)).1) ∧
      HitsGuard (((ServiceCall.revealAndDisposeSecret default
        ⟨Guid.empty, request.passphrase⟩).program Crypto.byteSum).run
          (runHistory Crypto.byteSum history default)).1 := by
  have empty : (default : Db).secrets = Table.empty := rfl
  obtain ⟨creations, reveals⟩ := accepted_requests_hit_no_guard_iff
    Crypto.byteSum_lawful history empty default
  have named : secret.id ≠ Guid.empty := by decide
  refine ⟨runHistory_history, ?_, ?_, ?_, ?_⟩
  · exact (creations request asks.validate_eq_nil).mpr rfl
  · by_contra unguarded
    cases (creations emptySecretRequest (by decide)).mp unguarded
  · refine (reveals ⟨secret.id, request.passphrase⟩ (by decide)).mpr ⟨named, ?_⟩
    rw [runHistory_history]
    exact deadlineInRange
  · by_contra unguarded
    exact ((reveals ⟨Guid.empty, request.passphrase⟩ (by decide)).mp unguarded).1 rfl

end SecretServer.Services
