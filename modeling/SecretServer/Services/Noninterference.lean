import SecretServer.Api.Middleware
import SecretServer.Data.RelatedTables
import SecretServer.Services.Expiry

namespace SecretServer.Services

open Text Data Concurrency Database EncryptionService SecretService
open Api (HttpResponse)
open Api.ExceptionHandlingMiddleware (invoke)

/-! Two runs that differ in the text and the passphrase of one secret.  Their tables
differ in the value of one row, and no response depends on it. -/

variable {Key : Type}

/-- One secret as the two runs store it. -/
structure Twins (crypto : Crypto Key) (guid : Guid) (first second : Contents)
    (row other : Secret) : Prop where
  named : row.id = guid
  same : other = { row with value := other.value }
  holdsFirst : Holds crypto row first
  holdsSecond : Holds crypto other second

def Alike (crypto : Crypto Key) (guid : Guid) (first second : Contents)
    (row other : Secret) : Prop :=
  row = other ∨ Twins crypto guid first second row other

structure AlikeDbs (crypto : Crypto Key) (guid : Guid) (first second : Contents)
    (db other : Db) : Prop where
  secrets : Table.Related (Alike crypto guid first second) db.secrets other.secrets
  users : other.users = db.users

/-- A reveal of the secret presents a passphrase under which neither text opens. -/
def ServiceCall.Locked (crypto : Crypto Key) (guid : Guid) (first second : Contents)
    (call : ServiceCall) : Prop :=
  ∀ generated request, call = .revealAndDisposeSecret generated request →
    request.guid = guid → ∀ passphrase ∈ request.passphrase,
      first.Resists crypto passphrase ∧ second.Resists crypto passphrase

variable {crypto : Crypto Key} {guid : Guid} {first second : Contents}

section Rows

variable {row other : Secret}

theorem Twins.id (twins : Twins crypto guid first second row other) :
    row.id = other.id := by
  rw [twins.same]

theorem Twins.userId (twins : Twins crypto guid first second row other) :
    row.userId = other.userId := by
  rw [twins.same]

theorem Twins.createdAt (twins : Twins crypto guid first second row other) :
    row.createdAt = other.createdAt := by
  rw [twins.same]

theorem Twins.toGridResponse (twins : Twins crypto guid first second row other) :
    toGridResponse row = toGridResponse other := by
  rw [twins.same]
  rfl

theorem Twins.lifetime (twins : Twins crypto guid first second row other) :
    first.lifetime = second.lifetime := by
  have ttl : row.ttl = other.ttl := by rw [twins.same]
  rw [twins.holdsFirst.ttl, twins.holdsSecond.ttl, Option.some.injEq,
    TimeToLive.getStringValue_inj] at ttl
  exact ttl

theorem Alike.id (row other : Secret) (alike : Alike crypto guid first second row other) :
    row.id = other.id := by
  rcases alike with same | twins
  · rw [same]
  · exact twins.id

theorem Alike.userId (row other : Secret)
    (alike : Alike crypto guid first second row other) : row.userId = other.userId := by
  rcases alike with same | twins
  · rw [same]
  · exact twins.userId

theorem Alike.toGridResponse (row other : Secret)
    (alike : Alike crypto guid first second row other) :
    toGridResponse row = toGridResponse other := by
  rcases alike with same | twins
  · rw [same]
  · exact twins.toGridResponse

theorem Twins.openSecret_eq (lawful : crypto.Lawful)
    (twins : Twins crypto guid first second row other) (utcNow : DateTime)
    {request : RevealSecretRequest}
    (acceptable : AcceptablePassphrase request.passphrase)
    (locked : ∀ passphrase ∈ request.passphrase,
      first.Resists crypto passphrase ∧ second.Resists crypto passphrase) :
    ∃ exception, openSecret crypto utcNow request row = .error exception ∧
      openSecret crypto utcNow request other = .error exception := by
  have resistsFirst := fun passphrase presents => (locked passphrase presents).1
  have resistsSecond := fun passphrase presents => (locked passphrase presents).2
  refine ⟨_, openSecret_refused lawful twins.holdsFirst acceptable resistsFirst, ?_⟩
  rw [openSecret_refused lawful twins.holdsSecond acceptable resistsSecond, twins.lifetime,
    twins.createdAt]

end Rows

section Steps

variable {db other : Db}

theorem AlikeDbs.referencesUser_iff (alike : AlikeDbs crypto guid first second db other)
    {userId : Option Guid} : other.ReferencesUser userId ↔ db.ReferencesUser userId := by
  unfold Db.ReferencesUser
  rw [alike.users]

theorem AlikeDbs.insert (alike : AlikeDbs crypto guid first second db other)
    {row twin : Secret} (ttl : row.ttl = twin.ttl) (userId : row.userId = twin.userId)
    (response : toCreateResponse row = toCreateResponse twin)
    (rows : Alike crypto guid first second row.materialized twin.materialized) :
    (ServiceCall.insert row db).1 = (ServiceCall.insert twin other).1 ∧
      AlikeDbs crypto guid first second (ServiceCall.insert row db).2
        (ServiceCall.insert twin other).2 := by
  have id : row.materialized.id = twin.materialized.id := Alike.id _ _ rows
  unfold ServiceCall.insert Db.insertSecret
  rw [← ttl, ← userId, ← response]
  by_cases unlabelled : row.ttl = none
  · rw [if_pos unlabelled, if_pos unlabelled]
    exact ⟨rfl, alike⟩
  · rw [if_neg unlabelled, if_neg unlabelled]
    by_cases known : db.ReferencesUser row.userId
    · rw [if_pos known, if_pos (alike.referencesUser_iff.mpr known)]
      rcases alike.secrets.find?_cases Alike.id row.materialized.id with
        ⟨absent, absentOther⟩ | ⟨old, oldOther, taken, takenOther, _⟩
      · have inserted := Table.insert?_eq_some_iff.mpr ⟨absent, rfl⟩
        have insertedOther := Table.insert?_eq_some_iff.mpr
          ⟨show other.secrets.find? twin.materialized.id = none from id ▸ absentOther, rfl⟩
        rw [inserted, insertedOther]
        exact ⟨rfl, alike.secrets.insert rows absent (id ▸ absentOther), alike.users⟩
      · have refused := Table.insert?_eq_none_iff.mpr
          (show db.secrets.find? row.materialized.id ≠ none by
            rw [taken]
            simp)
        have refusedOther := Table.insert?_eq_none_iff.mpr
          (show other.secrets.find? twin.materialized.id ≠ none by
            rw [← id, takenOther]
            simp)
        rw [refused, refusedOther]
        exact ⟨rfl, alike⟩
    · rw [if_neg known, if_neg fun same => known (alike.referencesUser_iff.mp same)]
      exact ⟨rfl, alike⟩

theorem AlikeDbs.reveal (lawful : crypto.Lawful)
    (alike : AlikeDbs crypto guid first second db other) {generated : Generated}
    {request : RevealSecretRequest}
    (locked : (ServiceCall.revealAndDisposeSecret generated request).Locked crypto guid
      first second) :
    let program := (ServiceCall.revealAndDisposeSecret generated request).program crypto
    (program.run db).1 = (program.run other).1 ∧
      AlikeDbs crypto guid first second (program.run db).2 (program.run other).2 := by
  dsimp only
  cases accepted : precheck request with
  | error exception =>
      rw [ServiceCall.run_reveal, ServiceCall.run_reveal, accepted]
      exact ⟨rfl, alike⟩
  | ok _ =>
      rcases alike.secrets.find?_cases Alike.id request.guid with
        ⟨absent, absentOther⟩ | ⟨row, twin, found, foundOther, rows⟩
      · rw [ServiceCall.run_reveal, ServiceCall.run_reveal, accepted, absent, absentOther]
        exact ⟨rfl, alike⟩
      · rw [ServiceCall.run_reveal_found crypto accepted found,
          ServiceCall.run_reveal_found crypto accepted foundOther]
        rcases rows with same | twins
        · rw [same]
          cases openSecret crypto (generated.utcNow 0) request twin with
          | error exception => exact ⟨rfl, alike⟩
          | ok response =>
              exact ⟨rfl, alike.secrets.delete Alike.id request.guid, alike.users⟩
        · have named : request.guid = guid :=
            (Table.key_of_find? found).symm.trans twins.named
          obtain ⟨exception, fails, failsOther⟩ :=
            twins.openSecret_eq lawful (generated.utcNow 0)
              (precheck_eq_ok_iff.mp accepted).1 (locked generated request rfl named)
          rw [fails, failsOther]
          exact ⟨rfl, alike⟩

theorem AlikeDbs.list (alike : AlikeDbs crypto guid first second db other)
    (request : BaseAuthenticatedRequest) :
    let program := (ServiceCall.getSecretsCreatedByUser request).program crypto
    (program.run db).1 = (program.run other).1 ∧
      AlikeDbs crypto guid first second (program.run db).2 (program.run other).2 := by
  dsimp only
  rw [ServiceCall.program_list]
  by_cases empty : request.executor.userId = Guid.empty
  · rw [if_pos empty]
    exact ⟨rfl, alike⟩
  · have listed : ServiceCall.listing request.executor.userId db =
        ServiceCall.listing request.executor.userId other := by
      refine alike.secrets.map_filter_eq ?_ Alike.toGridResponse
      intro row twin rows
      rw [Alike.userId row twin rows]
    rw [if_neg empty]
    refine ⟨?_, alike⟩
    rw [Program.run_access, Program.run_access, Program.run_done, Program.run_done, listed]

end Steps

theorem locked_simulates (lawful : crypto.Lawful) {call : ServiceCall}
    (locked : call.Locked crypto guid first second) :
    Simulates (AlikeDbs crypto guid first second) (· = ·) (call.program crypto)
      (call.program crypto) := by
  intro db other alike
  cases call with
  | createSecret generated request =>
      rw [ServiceCall.run_createSecret, ServiceCall.run_createSecret]
      cases prepare crypto generated request with
      | error exception => exact ⟨rfl, alike⟩
      | ok secret => exact alike.insert rfl rfl rfl (.inl rfl)
  | revealAndDisposeSecret generated request => exact alike.reveal lawful locked
  | getSecretsCreatedByUser request => exact alike.list request

/-- The text and the passphrase in which the two runs differ. -/
structure Secretive where
  plaintext : Utf16
  passphrase : Utf16
  plaintext_ne_nil : plaintext ≠ []
  acceptable : AcceptablePassphrase (some passphrase)

def CreateSecretRequest.withSecret (request : CreateSecretRequest)
    (secretive : Secretive) : CreateSecretRequest :=
  { request with
    secret := some secretive.plaintext
    passphrase := some secretive.passphrase }

def Secretive.contents (secretive : Secretive) (generated : Generated)
    (lifetime : TimeToLive) : Contents where
  plaintext := secretive.plaintext
  passphrase := secretive.passphrase
  lifetime := lifetime
  salt := generated.salt
  nonce := generated.nonce
  plaintext_ne_nil := secretive.plaintext_ne_nil
  acceptable := secretive.acceptable

section Create

variable {generated : Generated} {request : CreateSecretRequest} {left right : Secretive}

theorem validate_withSecret (request : CreateSecretRequest) (secretive : Secretive) :
    CreateSecretRequestValidator.validate (request.withSecret secretive) =
      FluentValidation.check (CreateSecretRequestValidator.isTimeToLive request.ttl) "Ttl"
        CreateSecretRequestValidator.invalidTimeToLiveValue := by
  rw [CreateSecretRequestValidator.validate]
  change FluentValidation.notEmpty "Passphrase" (some secretive.passphrase) ++
    FluentValidation.minimumLength "Passphrase" 3 (some secretive.passphrase) ++ _ = _
  rw [acceptablePassphrase_iff.mp secretive.acceptable, List.nil_append]
  rfl

theorem asks_withSecret {lifetime : TimeToLive} (secretive : Secretive)
    (labelled : request.ttl = some lifetime.getStringValue) :
    Asks (request.withSecret secretive) generated
      (secretive.contents generated lifetime) :=
  ⟨rfl, rfl, labelled, rfl, rfl⟩

theorem AlikeDbs.refl (db : Db) : AlikeDbs crypto guid first second db db :=
  ⟨List.forall₂_same.mpr fun _ _ => .inl rfl, rfl⟩

theorem sealedSecret_twins {lifetime : TimeToLive}
    (labelled : request.ttl = some lifetime.getStringValue) :
    Twins crypto generated.newGuid.value (left.contents generated lifetime)
      (right.contents generated lifetime)
      (sealedSecret crypto generated (request.withSecret left)
        (left.contents generated lifetime)).materialized
      (sealedSecret crypto generated (request.withSecret right)
        (right.contents generated lifetime)).materialized where
  named := rfl
  same := rfl
  holdsFirst := (holds_sealedSecret (asks_withSecret left labelled)).materialized
  holdsSecond := (holds_sealedSecret (asks_withSecret right labelled)).materialized

theorem create_alike (lawful : crypto.Lawful) (generated : Generated)
    (left right : Secretive) {lifetime : TimeToLive}
    (labelled : request.ttl = some lifetime.getStringValue) (db : Db) :
    let program := fun secretive => (ServiceCall.createSecret generated
      (request.withSecret secretive)).program crypto
    ((program left).run db).1 = ((program right).run db).1 ∧
      AlikeDbs crypto generated.newGuid.value (left.contents generated lifetime)
        (right.contents generated lifetime) ((program left).run db).2
        ((program right).run db).2 := by
  dsimp only
  rw [ServiceCall.run_createSecret, ServiceCall.run_createSecret,
    prepare_of_asks lawful (asks_withSecret left labelled),
    prepare_of_asks lawful (asks_withSecret right labelled)]
  exact (AlikeDbs.refl db).insert rfl rfl rfl (.inr (sealedSecret_twins labelled))

theorem create_refused
    (unlabelled : CreateSecretRequestValidator.isTimeToLive request.ttl = false)
    (secretive : Secretive) (db : Db) :
    ((ServiceCall.createSecret generated (request.withSecret secretive)).program
        crypto).run db =
      (.error (.validation
        [⟨"Ttl", CreateSecretRequestValidator.invalidTimeToLiveValue⟩]), db) := by
  have errors := validate_withSecret request secretive
  rw [unlabelled] at errors
  change _ = ([⟨"Ttl", CreateSecretRequestValidator.invalidTimeToLiveValue⟩] :
    List ValidationFailure) at errors
  rw [ServiceCall.run_createSecret, prepare_of_invalid (by rw [errors]; simp), errors]

end Create

/-- The responses that the calls of a history get, up to the random error ids. -/
def responses (crypto : Crypto Key) (history : List ServiceCall) (start : Db) :
    List (Guid → HttpResponse ServiceResponse) :=
  (historyLog crypto history start).map fun entry => invoke entry.2

theorem responses_append (before after : List ServiceCall) (start : Db) :
    responses crypto (before ++ after) start =
      responses crypto before start ++
        responses crypto after (runHistory crypto before start) := by
  unfold responses historyLog runHistory
  rw [runAll_append, List.map_append]

theorem responses_cons (call : ServiceCall) (after : List ServiceCall) (start : Db) :
    responses crypto (call :: after) start =
      invoke ((call.program crypto).run start).1 ::
        responses crypto after ((call.program crypto).run start).2 :=
  rfl

theorem responses_alike (lawful : crypto.Lawful) {history : List ServiceCall}
    (locked : ∀ call ∈ history, call.Locked crypto guid first second) {db other : Db}
    (alike : AlikeDbs crypto guid first second db other) :
    responses crypto history db = responses crypto history other := by
  have simulates : List.Forall₂ (fun call otherCall : ServiceCall =>
      Simulates (AlikeDbs crypto guid first second) (· = ·) (call.program crypto)
        (otherCall.program crypto)) history history :=
    List.forall₂_same.mpr fun call member => locked_simulates lawful (locked call member)
  have logs := (runAll_simulation simulates alike).1
  unfold responses
  rw [← List.forall₂_eq_eq_eq, List.forall₂_map_left_iff, List.forall₂_map_right_iff]
  exact logs.imp fun _ _ same => congrArg invoke same

/-- What the creations of the two runs ask to keep. -/
def eitherContents (generated : Generated) (left right : Secretive) : Set Contents :=
  {contents | ∃ lifetime, contents = left.contents generated lifetime ∨
    contents = right.contents generated lifetime}

theorem resists_of_ideal {generated : Generated} {left right : Secretive}
    {presented : Set Utf16}
    (ideal : crypto.Ideal presented (eitherContents generated left right))
    {passphrase : Utf16} (presents : passphrase ∈ presented)
    (locked : deriveKey crypto passphrase generated.salt.toList ≠
          deriveKey crypto left.passphrase generated.salt.toList ∧
        deriveKey crypto passphrase generated.salt.toList ≠
          deriveKey crypto right.passphrase generated.salt.toList) (lifetime : TimeToLive) :
    (left.contents generated lifetime).Resists crypto passphrase ∧
      (right.contents generated lifetime).Resists crypto passphrase := by
  constructor
  · apply ideal.wrong_key passphrase presents _ ⟨lifetime, .inl rfl⟩
    intro ⟨_, same, opens⟩
    cases same
    exact locked.1 opens
  · apply ideal.wrong_key passphrase presents _ ⟨lifetime, .inr rfl⟩
    intro ⟨_, same, opens⟩
    cases same
    exact locked.2 opens

theorem responses_independent_of_secret (before after : List ServiceCall) (start : Db)
    (generated : Generated) (request : CreateSecretRequest) (left right : Secretive)
    (ideal : crypto.Ideal {passphrase | ∃ call ∈ after, call.Presents passphrase}
      (eitherContents generated left right))
    (locked : ∀ revealing reveal, .revealAndDisposeSecret revealing reveal ∈ after →
      reveal.guid = generated.newGuid.value → ∀ presented ∈ reveal.passphrase,
        deriveKey crypto presented generated.salt.toList ≠
            deriveKey crypto left.passphrase generated.salt.toList ∧
          deriveKey crypto presented generated.salt.toList ≠
            deriveKey crypto right.passphrase generated.salt.toList) :
    responses crypto
        (before ++ .createSecret generated (request.withSecret left) :: after) start =
      responses crypto
        (before ++ .createSecret generated (request.withSecret right) :: after) start := by
  rw [responses_append, responses_append, responses_cons, responses_cons]
  congr 1
  cases labelled : CreateSecretRequestValidator.isTimeToLive request.ttl with
  | false => rw [create_refused labelled left, create_refused labelled right]
  | true =>
      obtain ⟨lifetime, ttl⟩ :=
        CreateSecretRequestValidator.isTimeToLive_iff.mp labelled
      obtain ⟨outcome, alike⟩ := create_alike ideal.toLawful generated left right ttl
        (runHistory crypto before start)
      have lockedAfter : ∀ call ∈ after, call.Locked crypto generated.newGuid.value
          (left.contents generated lifetime) (right.contents generated lifetime) := by
        intro call member revealing reveal same named passphrase presents
        subst same
        exact resists_of_ideal ideal ⟨_, member, revealing, reveal, rfl, presents⟩
          (locked revealing reveal member named passphrase presents) lifetime
      rw [outcome, responses_alike ideal.toLawful lockedAfter alike]

namespace TwoRuns

def left : Secretive := ⟨Utf16.ofString "left", Utf16.ofString "pass", by decide, pass_acceptable⟩

def right : Secretive := ⟨Utf16.ofString "right", Utf16.ofString "word", by decide, by decide⟩

def guess : ServiceCall :=
  .revealAndDisposeSecret default ⟨(default : Generated).newGuid.value,
    some (Utf16.ofString "guess")⟩

end TwoRuns

open TwoRuns in
theorem responses_independent_of_secret_guess :
    responses Crypto.byteSum ([] ++ .createSecret default
        (WeekSecret.request.withSecret left) :: [guess]) default =
      responses Crypto.byteSum ([] ++ .createSecret default
        (WeekSecret.request.withSecret right) :: [guess]) default := by
  refine responses_independent_of_secret [] [guess] default default WeekSecret.request
    left right (Crypto.byteSum_ideal _ _) ?_
  intro revealing reveal member _ presented presents
  cases List.mem_singleton.mp member
  cases presents
  exact ⟨by decide, by decide⟩

end SecretServer.Services
