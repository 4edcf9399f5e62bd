import SecretServer.Api.Middleware
import SecretServer.Data.RelatedTables
import SecretServer.Services.Expiry

namespace SecretServer.Services

open Text Data Concurrency Database SecretService
open Api (ErrorCode)
open Api.ExceptionHandlingMiddleware (errorCode)

/-! The one-time vault that the encrypted store is meant to be: it keeps every text as
it is, gives it out once, and refuses everything else. -/

inductive VaultCall where
  | create (generated : Generated) (request : CreateSecretRequest)
  | reveal (generated : Generated) (request : RevealSecretRequest)

def VaultCall.service : VaultCall → ServiceCall
  | .create generated request => .createSecret generated request
  | .reveal generated request => .revealAndDisposeSecret generated request

structure VaultEntry where
  id : Guid
  contents : Contents
  createdAt : DateTime

abbrev Vault := Table VaultEntry.id

abbrev VaultOutcome := Except ErrorCode ServiceResponse

def lifetimeOf? (label : Option Utf16) : Option TimeToLive :=
  TimeToLive.values.find? fun lifetime => label = some lifetime.getStringValue

/-- What an admissible request asks the vault to keep. -/
def admissible? (generated : Generated) (request : CreateSecretRequest) :
    Option Contents :=
  match request.secret, request.passphrase, lifetimeOf? request.ttl with
  | some plaintext, some passphrase, some lifetime =>
      if admissible : plaintext ≠ [] ∧ AcceptablePassphrase (some passphrase) then
        some ⟨plaintext, passphrase, lifetime, generated.salt, generated.nonce,
          admissible.1, admissible.2⟩
      else
        none
  | _, _, _ => none

instance {Key : Type} [DecidableEq Key] (crypto : Crypto Key) (contents : Contents)
    (presented : Option Utf16) : Decidable (contents.Unlocks crypto presented) :=
  match presented with
  | none => .isFalse fun ⟨_, member, _⟩ => by cases member
  | some passphrase =>
      decidable_of_iff (EncryptionService.deriveKey crypto passphrase
        contents.salt.toList = EncryptionService.deriveKey crypto contents.passphrase
          contents.salt.toList) (by simp [Contents.Unlocks])

namespace Vault

def create (generated : Generated) (request : CreateSecretRequest) (vault : Vault) :
    VaultOutcome × Vault :=
  match admissible? generated request with
  | some contents =>
      let createdAt := generated.utcNow 0
      match vault.insert? ⟨generated.newGuid.value, contents, createdAt⟩ with
      | some next => (.ok (.createSecret ⟨generated.newGuid.value, createdAt⟩), next)
      | none => (.error .internalServerError, vault)
  | none =>
      if AcceptablePassphrase request.passphrase ∧
          (lifetimeOf? request.ttl).isSome then
        (.error .internalServerError, vault)
      else
        (.error .validationFailure, vault)

variable {Key : Type} [DecidableEq Key] (crypto : Crypto Key)

def reveal (generated : Generated) (request : RevealSecretRequest) (vault : Vault) :
    VaultOutcome × Vault :=
  if AcceptablePassphrase request.passphrase then
    match vault.find? request.guid with
    | none => (.error .internalServerError, vault)
    | some entry =>
        match entry.contents.lifetime.deadline entry.createdAt with
        | .error _ => (.error .internalServerError, vault)
        | .ok latestTime =>
            if latestTime.ticks < (generated.utcNow 0).ticks then
              (.error .internalServerError, vault)
            else if entry.contents.Unlocks crypto request.passphrase then
              (.ok (.revealSecret ⟨entry.contents.plaintext⟩), vault.delete request.guid)
            else
              (.error .unauthorized, vault)
  else
    (.error .validationFailure, vault)

def step : VaultCall → Vault → VaultOutcome × Vault
  | .create generated request => create generated request
  | .reveal generated request => reveal crypto generated request

end Vault

/-! The store refines the vault. -/

structure Keeps {Key : Type} (crypto : Crypto Key) (secret : Secret)
    (entry : VaultEntry) : Prop where
  id : secret.id = entry.id
  named : entry.id ≠ Guid.empty
  holds : Holds crypto secret entry.contents
  createdAt : secret.createdAt = entry.createdAt.materialized
  wellFormed : entry.contents.plaintext.WellFormed

/-- Every row keeps one entry of the vault, and the users are those of the start. -/
structure Refines {Key : Type} (crypto : Crypto Key) (start db : Db) (vault : Vault) :
    Prop where
  entries : Table.Related (Keeps crypto) db.secrets vault
  users : db.users = start.users

/-- What is promised of the arguments: strings are well-formed, and an executor is a
user, as `SetExecutorFilter` sees to. -/
def VaultCall.Promised (start : Db) : VaultCall → Prop
  | .create _ request =>
      (∀ text ∈ request.secret, text.WellFormed) ∧
        start.ReferencesUser (request.executor.map Executor.userId)
  | .reveal _ _ => True

theorem lifetimeOf?_eq_some_iff {label : Option Utf16} {lifetime : TimeToLive} :
    lifetimeOf? label = some lifetime ↔
      label = some lifetime.getStringValue := by
  constructor
  · intro found
    simpa using List.find?_some found
  · intro same
    subst same
    cases lifetime <;> decide

theorem validate_eq_nil_iff_lifetimeOf? {request : CreateSecretRequest} :
    CreateSecretRequestValidator.validate request = [] ↔
      AcceptablePassphrase request.passphrase ∧
        (lifetimeOf? request.ttl).isSome = true := by
  rw [CreateSecretRequestValidator.validate_eq_nil_iff, Option.isSome_iff_exists]
  simp only [lifetimeOf?_eq_some_iff]

theorem admissible?_eq_some_iff {generated : Generated} {request : CreateSecretRequest}
    {contents : Contents} :
    admissible? generated request = some contents ↔ Asks request generated contents := by
  constructor
  · intro admissible
    unfold admissible? at admissible
    split at admissible
    next plaintext passphrase lifetime secret passphraseEq label =>
      split at admissible
      next =>
        cases admissible
        exact ⟨secret, passphraseEq, lifetimeOf?_eq_some_iff.mp label, rfl, rfl⟩
      next => cases admissible
    next => cases admissible
  · intro ⟨secret, passphrase, ttl, salt, nonce⟩
    unfold admissible?
    rw [secret, passphrase, lifetimeOf?_eq_some_iff.mpr ttl]
    dsimp only
    rw [dif_pos ⟨contents.plaintext_ne_nil, contents.acceptable⟩, ← salt, ← nonce]

/-- An entry that a creation leaves is an old one or keeps what was asked for. -/
theorem Vault.mem_create {generated : Generated} {request : CreateSecretRequest}
    {vault : Vault} {entry : VaultEntry}
    (member : entry ∈ (Vault.create generated request vault).2.rows) :
    entry ∈ vault.rows ∨ Asks request generated entry.contents := by
  unfold Vault.create at member
  split at member
  next contents admissible =>
    dsimp only at member
    split at member
    next next inserted =>
      obtain ⟨absent, rfl⟩ := Table.insert?_eq_some_iff.mp inserted
      rcases (Table.mem_insert absent).mp member with old | rfl
      · exact .inl old
      · exact .inr (admissible?_eq_some_iff.mp admissible)
    next => exact .inl member
  next =>
    split at member
    · exact .inl member
    · exact .inl member

/-- What a reveal finds it gives out and removes, or it is refused. -/
theorem Vault.reveal_cases {Key : Type} [DecidableEq Key] (crypto : Crypto Key)
    (generated : Generated) (request : RevealSecretRequest) (vault : Vault) :
    (∃ code, Vault.reveal crypto generated request vault = (.error code, vault)) ∨
      ∃ entry, vault.find? request.guid = some entry ∧
        Vault.reveal crypto generated request vault =
          (.ok (.revealSecret ⟨entry.contents.plaintext⟩), vault.delete request.guid) := by
  unfold Vault.reveal
  split
  next =>
    cases found : vault.find? request.guid with
    | none => exact .inl ⟨_, rfl⟩
    | some entry =>
        dsimp only
        cases entry.contents.lifetime.deadline entry.createdAt with
        | error exception => exact .inl ⟨_, rfl⟩
        | ok latestTime =>
            dsimp only
            split
            next => exact .inl ⟨_, rfl⟩
            next =>
              split
              next => exact .inr ⟨entry, rfl, rfl⟩
              next => exact .inl ⟨_, rfl⟩
  next => exact .inl ⟨_, rfl⟩

theorem Vault.mem_reveal {Key : Type} [DecidableEq Key] {crypto : Crypto Key}
    {generated : Generated} {request : RevealSecretRequest} {vault : Vault}
    {entry : VaultEntry}
    (member : entry ∈ (Vault.reveal crypto generated request vault).2.rows) :
    entry ∈ vault.rows := by
  rcases Vault.reveal_cases crypto generated request vault with
    ⟨code, refused⟩ | ⟨_, _, given⟩
  · rw [refused] at member
    exact member
  · rw [given] at member
    exact (Table.mem_delete.mp member).1

section Steps

variable {Key : Type} {crypto : Crypto Key} {start db : Db} {vault : Vault}

theorem Keeps.sameKey (secret : Secret) (entry : VaultEntry)
    (keeps : Keeps crypto secret entry) : secret.id = entry.id := keeps.id

theorem Refines.referencesUser (refines : Refines crypto start db vault)
    {userId : Option Guid} (known : start.ReferencesUser userId) :
    db.ReferencesUser userId := by
  unfold Db.ReferencesUser
  rw [refines.users]
  exact known

theorem create_refines (lawful : crypto.Lawful) {generated : Generated}
    {request : CreateSecretRequest}
    (promised : (VaultCall.create generated request).Promised start)
    (refines : Refines crypto start db vault) :
    let outcome := ((ServiceCall.createSecret generated request).program crypto).run db
    outcome.1.mapError errorCode = (Vault.create generated request vault).1 ∧
      Refines crypto start outcome.2 (Vault.create generated request vault).2 := by
  obtain ⟨wellFormed, known⟩ := promised
  unfold Vault.create
  cases admissible : admissible? generated request with
  | some contents =>
      have asks := admissible?_eq_some_iff.mp admissible
      have keeps : Keeps crypto (sealedSecret crypto generated request contents).materialized
          ⟨generated.newGuid.value, contents, generated.utcNow 0⟩ :=
        ⟨rfl, generated.newGuid.nonempty, (holds_sealedSecret asks).materialized, rfl,
          wellFormed contents.plaintext asks.secret⟩
      rcases refines.entries.find?_cases Keeps.sameKey generated.newGuid.value with
        ⟨absent, free⟩ | ⟨row, entry, taken, occupied, _⟩
      · have ran := run_createSecret_of_asks lawful asks (refines.referencesUser known)
          absent
        have inserted : vault.insert? ⟨generated.newGuid.value, contents,
            generated.utcNow 0⟩ = some (vault.insert _ free) :=
          Table.insert?_eq_some_iff.mpr ⟨free, rfl⟩
        rw [ran]
        dsimp only
        rw [inserted]
        exact ⟨rfl, refines.entries.insert keeps absent free, refines.users⟩
      · have refused : vault.insert? ⟨generated.newGuid.value, contents,
            generated.utcNow 0⟩ = none :=
          Table.insert?_eq_none_iff.mpr (by simp [occupied])
        dsimp only
        rw [refused, ServiceCall.run_createSecret, prepare_of_asks lawful asks]
        dsimp only [ServiceCall.insert]
        cases inserted : db.insertSecret (sealedSecret crypto generated request contents) with
        | ok next =>
            obtain ⟨_, _, absent, _⟩ := Db.insertSecret_eq_ok_iff.mp inserted
            exact absurd (taken.symm.trans absent) (by simp)
        | error exception =>
            obtain ⟨constraint, rfl⟩ := Db.insertSecret_error inserted
            exact ⟨rfl, refines⟩
  | none =>
      dsimp only
      rw [ServiceCall.run_createSecret]
      by_cases accepted : CreateSecretRequestValidator.validate request = []
      · have missing : Utf16.isNullOrEmpty request.secret = true := by
          by_contra present
          obtain ⟨contents, asks⟩ :=
            exists_asks generated accepted (Bool.not_eq_true _ ▸ present)
          rw [admissible?_eq_some_iff.mpr asks] at admissible
          cases admissible
        rw [prepare_of_missing accepted missing,
          if_pos (validate_eq_nil_iff_lifetimeOf?.mp accepted)]
        exact ⟨rfl, refines⟩
      · rw [prepare_of_invalid accepted,
          if_neg fun labelled => accepted (validate_eq_nil_iff_lifetimeOf?.mpr labelled)]
        exact ⟨rfl, refines⟩

theorem reveal_refines [DecidableEq Key] (lawful : crypto.Lawful) (generated : Generated)
    {request : RevealSecretRequest}
    (rightly : ∀ entry ∈ vault.rows, entry.contents.OpensRightly crypto request.passphrase)
    (refines : Refines crypto start db vault) :
    let outcome :=
      ((ServiceCall.revealAndDisposeSecret generated request).program crypto).run db
    outcome.1.mapError errorCode = (Vault.reveal crypto generated request vault).1 ∧
      Refines crypto start outcome.2 (Vault.reveal crypto generated request vault).2 := by
  unfold Vault.reveal
  by_cases acceptable : AcceptablePassphrase request.passphrase
  · rw [if_pos acceptable]
    have accepted := RevealSecretRequestValidator.validate_eq_nil_iff.mpr acceptable
    rcases refines.entries.find?_cases Keeps.sameKey request.guid with
      ⟨absent, missing⟩ | ⟨row, entry, found, present, keeps⟩
    · rw [missing]
      dsimp only
      rw [ServiceCall.run_reveal]
      by_cases empty : request.guid = Guid.empty
      · rw [precheck_of_empty accepted empty]
        exact ⟨rfl, refines⟩
      · rw [precheck_of_valid accepted empty, absent]
        exact ⟨rfl, refines⟩
    · have named : request.guid ≠ Guid.empty := by
        rw [← Table.key_of_find? present]
        exact keeps.named
      have sameTicks : row.createdAt.ticks = entry.createdAt.ticks := by
        rw [keeps.createdAt, DateTime.ticks_materialized]
      rw [present, ServiceCall.run_reveal_found crypto (precheck_of_valid accepted named)
        found]
      dsimp only
      rcases Nat.lt_or_ge DateTime.maxTicks
          (entry.createdAt.ticks + entry.contents.lifetime.grantedTicks) with
        beyond | inRange
      · rw [TimeToLive.deadline_of_lt beyond, openSecret_of_overflow keeps.holds
          (TimeToLive.deadline_of_lt (sameTicks ▸ beyond))]
        exact ⟨rfl, refines⟩
      · have deadline := TimeToLive.deadline_of_le
          (show row.createdAt.ticks + entry.contents.lifetime.grantedTicks ≤ _ from
            sameTicks ▸ inRange)
        rw [TimeToLive.deadline_of_le inRange]
        dsimp only
        rcases Nat.lt_or_ge (entry.createdAt.ticks + entry.contents.lifetime.grantedTicks)
            (generated.utcNow 0).ticks with late | inTime
        · have alreadyLate : row.createdAt.ticks + entry.contents.lifetime.grantedTicks <
              (generated.utcNow 0).ticks := by
            rw [sameTicks]
            exact late
          rw [if_pos late, openSecret_of_expired keeps.holds deadline alreadyLate]
          exact ⟨rfl, refines⟩
        · rw [if_neg (Nat.not_lt.mpr inTime)]
          have stillInTime : (generated.utcNow 0).ticks ≤
              row.createdAt.ticks + entry.contents.lifetime.grantedTicks := by
            rw [sameTicks]
            exact inTime
          by_cases unlocks : entry.contents.Unlocks crypto request.passphrase
          · rw [if_pos unlocks, openSecret_unlocked lawful keeps.holds deadline
              stillInTime acceptable unlocks,
              Utf8.getString_getBytes_of_wellFormed keeps.wellFormed]
            exact ⟨rfl, refines.entries.delete Keeps.sameKey request.guid, refines.users⟩
          · have resists : ∀ passphrase ∈ request.passphrase,
                entry.contents.Resists crypto passphrase := fun passphrase presents =>
              rightly entry (Table.mem_of_find? present) passphrase presents unlocks
            rw [if_neg unlocks, openSecret_locked lawful keeps.holds deadline stillInTime
              acceptable resists]
            exact ⟨rfl, refines⟩
  · have refused : RevealSecretRequestValidator.validate request ≠ [] :=
      fun accepted => acceptable
        (RevealSecretRequestValidator.validate_eq_nil_iff.mp accepted)
    rw [if_neg acceptable, ServiceCall.run_reveal, precheck_of_invalid refused]
    exact ⟨rfl, refines⟩

end Steps

abbrev storeProgram {Key : Type} (crypto : Crypto Key) (call : VaultCall) :
    Program Db ServiceOutcome :=
  call.service.program crypto

abbrev vaultProgram {Key : Type} [DecidableEq Key] (crypto : Crypto Key)
    (call : VaultCall) : Program Vault VaultOutcome :=
  Program.atomically (Vault.step crypto call)

/-- The code's outcome is the vault's, an exception being known by its error code. -/
def SameOutcome (outcome : ServiceOutcome) (expected : VaultOutcome) : Prop :=
  outcome.mapError errorCode = expected

/-- The refinement, and that the vault keeps these contents only. -/
def RefinesKeeping {Key : Type} (crypto : Crypto Key) (start : Db) (kept : Set Contents)
    (db : Db) (vault : Vault) : Prop :=
  Refines crypto start db vault ∧ ∀ entry ∈ vault.rows, entry.contents ∈ kept

theorem step_refines {Key : Type} [DecidableEq Key] {crypto : Crypto Key}
    {presented : Set Utf16} {kept : Set Contents} (ideal : crypto.Ideal presented kept)
    {start : Db} {call : VaultCall} (promised : call.Promised start)
    (presents : ∀ passphrase, call.service.Presents passphrase → passphrase ∈ presented)
    (asks : ∀ contents, call.service.AsksFor contents → contents ∈ kept) :
    Simulates (RefinesKeeping crypto start kept) SameOutcome (storeProgram crypto call)
      (vaultProgram crypto call) := by
  intro db vault ⟨refines, keeping⟩
  cases call with
  | create generated request =>
      obtain ⟨same, next⟩ := create_refines ideal.toLawful promised refines
      refine ⟨same, next, ?_⟩
      intro entry member
      rcases Vault.mem_create member with old | asked
      · exact keeping entry old
      · exact asks entry.contents ⟨generated, request, rfl, asked⟩
  | reveal generated request =>
      have rightly : ∀ entry ∈ vault.rows,
          entry.contents.OpensRightly crypto request.passphrase := by
        intro entry member
        refine ideal.opensRightly ?_ (keeping entry member)
        intro passphrase requested
        exact presents passphrase ⟨generated, request, rfl, requested⟩
      obtain ⟨same, next⟩ := reveal_refines ideal.toLawful generated rightly refines
      exact ⟨same, next, fun entry member => keeping entry (Vault.mem_reveal member)⟩

theorem store_refines_vault {Key : Type} [DecidableEq Key] {crypto : Crypto Key}
    {start : Db} (empty : start.secrets = Table.empty) {history : List VaultCall}
    (ideal : crypto.Ideal
      {passphrase | ∃ call ∈ history, call.service.Presents passphrase}
      {contents | ∃ call ∈ history, call.service.AsksFor contents})
    (promised : ∀ call ∈ history, call.Promised start) :
    List.Forall₂ (fun entry expected => SameOutcome entry.2 expected.2)
        (runAll (storeProgram crypto) history start).1
        (runAll (vaultProgram crypto) history Table.empty).1 ∧
      Table.Related (Keeps crypto) (runAll (storeProgram crypto) history start).2.secrets
        (runAll (vaultProgram crypto) history Table.empty).2 := by
  have simulates : List.Forall₂ (fun call other =>
      Simulates (RefinesKeeping crypto start _) SameOutcome (storeProgram crypto call)
        (vaultProgram crypto other)) history history :=
    List.forall₂_same.mpr fun call member => step_refines ideal (promised call member)
      (fun _ presents => ⟨call, member, presents⟩) (fun _ asks => ⟨call, member, asks⟩)
  have initially : RefinesKeeping crypto start
      {contents | ∃ call ∈ history, call.service.AsksFor contents} start Table.empty :=
    ⟨⟨empty ▸ Table.Related.empty, rfl⟩, fun _ member => absurd member List.not_mem_nil⟩
  obtain ⟨outcomes, final, _⟩ := runAll_simulation simulates initially
  exact ⟨outcomes, final.entries⟩

def weekHistory : List VaultCall :=
  [.create default WeekSecret.request,
    .reveal default ⟨WeekSecret.secret.id, WeekSecret.request.passphrase⟩]

theorem store_refines_vault_week :
    List.Forall₂ (fun entry expected => SameOutcome entry.2 expected.2)
        (runAll (storeProgram Crypto.byteSum) weekHistory default).1
        (runAll (vaultProgram Crypto.byteSum) weekHistory Table.empty).1 ∧
      Table.Related (Keeps Crypto.byteSum)
        (runAll (storeProgram Crypto.byteSum) weekHistory default).2.secrets
        (runAll (vaultProgram Crypto.byteSum) weekHistory Table.empty).2 := by
  refine store_refines_vault rfl (Crypto.byteSum_ideal _ _) ?_
  intro call member
  rcases List.mem_pair.mp member with rfl | rfl
  · refine ⟨?_, by simp [WeekSecret.request, Db.ReferencesUser]⟩
    intro _ requested
    cases requested
    exact Utf16.wellFormed_ofString _
  · trivial

end SecretServer.Services
