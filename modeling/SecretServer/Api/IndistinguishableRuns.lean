import SecretServer.Api.ConcurrentRequests
import SecretServer.Concurrency.Lockstep
import SecretServer.Services.Noninterference

namespace SecretServer.Api

open Text Data Concurrency Database Services EncryptionService SecretService

/-! Two runs of the same requests, one of which creates a secret with another text and
another passphrase.  They go in lockstep, access by access. -/

variable {Key : Type}

structure Indistinct (crypto : Crypto Key) (guid : Guid) (first second : Contents)
    (db other : Db) : Prop where
  alike : AlikeDbs crypto guid first second db other
  collation : other.collation = db.collation

section Accesses

variable {crypto : Crypto Key} {guid : Guid} {first second : Contents} {db other : Db}

theorem Indistinct.refl (db : Db) : Indistinct crypto guid first second db db :=
  ⟨AlikeDbs.refl db, rfl⟩

/-! The filter and the action read and write the users only. -/

theorem Indistinct.findByAuthProviderId?
    (indistinct : Indistinct crypto guid first second db other) (login : Utf16) :
    other.findByAuthProviderId? login = db.findByAuthProviderId? login := by
  unfold Db.findByAuthProviderId?
  rw [indistinct.alike.users, indistinct.collation]

theorem insertUser_of_sameUsers (users : other.users = db.users)
    (collation : other.collation = db.collation) (user : User) :
    other.insertUser user =
      (db.insertUser user).map fun next => other.withUsers next.users := by
  obtain ⟨_, _, _⟩ := db
  obtain ⟨_, _, _⟩ := other
  dsimp only at users collation
  subst users collation
  unfold Db.insertUser Db.findByAuthProviderId?
  dsimp only
  split
  · rfl
  · split
    · rfl
    · split <;> rfl

theorem Indistinct.insertUser (indistinct : Indistinct crypto guid first second db other)
    (newUser : NewUser) (login : Utf16) :
    (ExecutorService.insert newUser login db).1 =
        (ExecutorService.insert newUser login other).1 ∧
      Indistinct crypto guid first second (ExecutorService.insert newUser login db).2
        (ExecutorService.insert newUser login other).2 := by
  unfold ExecutorService.insert
  rw [insertUser_of_sameUsers indistinct.alike.users indistinct.collation]
  cases inserted : db.insertUser (ExecutorService.provisioned newUser login) with
  | error exception => exact ⟨rfl, indistinct⟩
  | ok next =>
      obtain ⟨-, -, absent, rfl⟩ := Db.insertUser_eq_ok_iff.mp inserted
      exact ⟨rfl, ⟨indistinct.alike.secrets, rfl⟩, indistinct.collation⟩

theorem lockstep_tryGet (newUser : NewUser) (principal : ClaimsPrincipal) :
    Lockstep (Indistinct crypto guid first second) Eq
      (ExecutorService.tryGet newUser principal).run
      (ExecutorService.tryGet newUser principal).run := by
  cases authenticated : principal.login? with
  | none =>
      rw [ExecutorService.run_tryGet_anonymous _ authenticated]
      exact .done rfl
  | some login =>
      rw [ExecutorService.run_tryGet_authenticated _ authenticated]
      apply Lockstep.access
      · intro db other indistinct
        exact indistinct
      · intro db other indistinct
        rw [indistinct.findByAuthProviderId? login]
        cases db.findByAuthProviderId? login with
        | some user => exact .done rfl
        | none =>
            apply Lockstep.atomically
            intro db other indistinct
            exact indistinct.insertUser newUser login

/-! The service calls. -/

theorem collation_insert (secret : Secret) (db : Db) :
    (ServiceCall.insert secret db).2.collation = db.collation := by
  unfold ServiceCall.insert
  cases inserted : db.insertSecret secret with
  | error exception => rfl
  | ok next =>
      obtain ⟨-, -, _, rfl⟩ := Db.insertSecret_eq_ok_iff.mp inserted
      rfl

theorem Indistinct.insert (indistinct : Indistinct crypto guid first second db other)
    {row twin : Secret} (ttl : row.ttl = twin.ttl) (userId : row.userId = twin.userId)
    (response : toCreateResponse row = toCreateResponse twin)
    (rows : Alike crypto guid first second row.materialized twin.materialized) :
    (ServiceCall.insert row db).1 = (ServiceCall.insert twin other).1 ∧
      Indistinct crypto guid first second (ServiceCall.insert row db).2
        (ServiceCall.insert twin other).2 := by
  obtain ⟨same, alike⟩ := indistinct.alike.insert ttl userId response rows
  refine ⟨same, alike, ?_⟩
  rw [collation_insert, collation_insert, indistinct.collation]

theorem Indistinct.dispose (indistinct : Indistinct crypto guid first second db other)
    {secret twin : Secret} (named : secret.id = twin.id) (response : RevealSecretResponse) :
    (ServiceCall.dispose secret response db).1 =
        (ServiceCall.dispose twin response other).1 ∧
      Indistinct crypto guid first second (ServiceCall.dispose secret response db).2
        (ServiceCall.dispose twin response other).2 := by
  unfold ServiceCall.dispose Db.deleteSecret
  rw [← named]
  rcases indistinct.alike.secrets.find?_cases Alike.id secret.id with
    ⟨absent, absentOther⟩ | ⟨row, rowOther, found, foundOther, -⟩
  · rw [absent, absentOther]
    exact ⟨rfl, indistinct⟩
  · rw [found, foundOther]
    exact ⟨rfl, ⟨indistinct.alike.secrets.delete Alike.id secret.id, indistinct.alike.users⟩,
      indistinct.collation⟩

theorem lockstep_createSecret (generated : Generated) (request : CreateSecretRequest) :
    Lockstep (Indistinct crypto guid first second) Eq
      ((ServiceCall.createSecret generated request).program crypto)
      ((ServiceCall.createSecret generated request).program crypto) := by
  rw [ServiceCall.program_createSecret]
  cases prepare crypto generated request with
  | error exception => exact .done rfl
  | ok secret =>
      apply Lockstep.atomically
      intro db other indistinct
      exact indistinct.insert rfl rfl rfl (.inl rfl)

theorem lockstep_reveal (lawful : crypto.Lawful) {generated : Generated}
    {request : RevealSecretRequest}
    (locked : (ServiceCall.revealAndDisposeSecret generated request).Locked crypto guid
      first second) :
    Lockstep (Indistinct crypto guid first second) Eq
      ((ServiceCall.revealAndDisposeSecret generated request).program crypto)
      ((ServiceCall.revealAndDisposeSecret generated request).program crypto) := by
  rw [ServiceCall.program_reveal]
  cases accepted : precheck request with
  | error exception => exact .done rfl
  | ok _ =>
      apply Lockstep.access
      · intro db other indistinct
        exact indistinct
      · intro db other indistinct
        rcases indistinct.alike.secrets.find?_cases Alike.id request.guid with
          ⟨absent, absentOther⟩ | ⟨row, twin, found, foundOther, rows⟩
        · rw [absent, absentOther]
          exact .done rfl
        · rw [found, foundOther]
          unfold ServiceCall.afterLookup
          dsimp only
          rcases rows with same | twins
          · rw [same]
            cases openSecret crypto (generated.utcNow 0) request twin with
            | error exception => exact .done rfl
            | ok response =>
                apply Lockstep.atomically
                intro db other indistinct
                exact indistinct.dispose rfl response
          · have named : request.guid = guid :=
              (Table.key_of_find? found).symm.trans twins.named
            obtain ⟨exception, fails, failsOther⟩ :=
              twins.openSecret_eq lawful (generated.utcNow 0)
                (precheck_eq_ok_iff.mp accepted).1 (locked generated request rfl named)
            rw [fails, failsOther]
            exact .done rfl

theorem Indistinct.listing_eq (indistinct : Indistinct crypto guid first second db other)
    (userId : Guid) : ServiceCall.listing userId db = ServiceCall.listing userId other := by
  refine indistinct.alike.secrets.map_filter_eq ?_ Alike.toGridResponse
  intro row twin rows
  rw [Alike.userId row twin rows]

theorem lockstep_list (request : BaseAuthenticatedRequest) :
    Lockstep (Indistinct crypto guid first second) Eq
      ((ServiceCall.getSecretsCreatedByUser request).program crypto)
      ((ServiceCall.getSecretsCreatedByUser request).program crypto) := by
  rw [ServiceCall.program_list]
  split
  next => exact .done rfl
  next =>
    apply Lockstep.access
    · intro db other indistinct
      exact indistinct
    · intro db other indistinct
      rw [indistinct.listing_eq]
      exact .done rfl

end Accesses

/-! The two creations: both are refused for their label, or both store their secret. -/

section Creation

variable {crypto : Crypto Key} {generated : Generated} {lifetime : TimeToLive}

theorem exists_lifetime (ttl : Option Utf16) :
    ∃ lifetime : TimeToLive, CreateSecretRequestValidator.isTimeToLive ttl = true →
      ttl = some lifetime.getStringValue := by
  cases labelled : CreateSecretRequestValidator.isTimeToLive ttl with
  | false => exact ⟨.hour, nofun⟩
  | true =>
      obtain ⟨lifetime, named⟩ := CreateSecretRequestValidator.isTimeToLive_iff.mp labelled
      exact ⟨lifetime, fun _ => named⟩

theorem prepare_withSecret_of_unlabelled {request : CreateSecretRequest}
    (unlabelled : CreateSecretRequestValidator.isTimeToLive request.ttl = false)
    (secretive : Secretive) :
    prepare crypto generated (request.withSecret secretive) =
      .error (.validation
        [⟨"Ttl", CreateSecretRequestValidator.invalidTimeToLiveValue⟩]) := by
  have errors := validate_withSecret request secretive
  rw [unlabelled] at errors
  change _ = ([⟨"Ttl", CreateSecretRequestValidator.invalidTimeToLiveValue⟩] :
    List ValidationFailure) at errors
  rw [prepare_of_invalid (by rw [errors]; simp), errors]

theorem lockstep_createTwins (lawful : crypto.Lawful) {request : CreateSecretRequest}
    (left right : Secretive)
    (label : CreateSecretRequestValidator.isTimeToLive request.ttl = true →
      request.ttl = some lifetime.getStringValue) :
    Lockstep (Indistinct crypto generated.newGuid.value (left.contents generated lifetime)
        (right.contents generated lifetime)) Eq
      ((ServiceCall.createSecret generated (request.withSecret left)).program crypto)
      ((ServiceCall.createSecret generated (request.withSecret right)).program crypto) := by
  rw [ServiceCall.program_createSecret, ServiceCall.program_createSecret]
  cases labelled : CreateSecretRequestValidator.isTimeToLive request.ttl with
  | false =>
      rw [prepare_withSecret_of_unlabelled labelled left,
        prepare_withSecret_of_unlabelled labelled right]
      exact .done rfl
  | true =>
      have ttl := label labelled
      rw [prepare_of_asks lawful (asks_withSecret left ttl),
        prepare_of_asks lawful (asks_withSecret right ttl)]
      apply Lockstep.atomically
      intro db other indistinct
      exact indistinct.insert rfl rfl rfl (.inr (sealedSecret_twins ttl))

end Creation

def ApiRequest.withSecret (request : ApiRequest) (body : CreateSecretRequest)
    (secretive : Secretive) : ApiRequest :=
  { request with endpoint := .createSecret (some (body.withSecret secretive)) }

section Requests

variable {crypto : Crypto Key} {guid : Guid} {first second : Contents}
  {request : ApiRequest}

/-- A request that does not reveal the secret, or presents what opens neither text. -/
def ApiRequest.Locked (crypto : Crypto Key) (guid : Guid) (first second : Contents)
    (request : ApiRequest) : Prop :=
  ∀ asked, request.endpoint = .revealSecret (some asked) →
    (ServiceCall.revealAndDisposeSecret request.generated asked).Locked crypto guid first
      second

theorem lockstep_getSecretsCreatedByUser (newUser : NewUser) (principal : ClaimsPrincipal) :
    Lockstep (Indistinct crypto guid first second) Eq
      (SecretsController.getSecretsCreatedByUser crypto newUser principal).run
      (SecretsController.getSecretsCreatedByUser crypto newUser principal).run := by
  rw [run_getSecretsCreatedByUser]
  apply (lockstep_tryGet newUser principal).bind
  intro outcome _ same
  subst same
  cases outcome with
  | error exception => exact .done rfl
  | ok executor =>
      cases executor with
      | none => exact .done rfl
      | some executor => exact lockstep_list ⟨executor⟩

theorem Lockstep.value {relates : Db → Db → Prop} {program other : Program Db ServiceOutcome}
    (lockstep : Lockstep relates Eq program other) :
    Lockstep relates Eq (Except.map ActionResult.value <$> program)
      (Except.map ActionResult.value <$> other) := by
  apply Lockstep.map
  apply lockstep.weaken
  intro outcome otherOutcome same
  rw [same]

theorem lockstep_invoke (lawful : crypto.Lawful) {actionArguments : List ActionArgument}
    (bound : request.endpoint.actionArguments = some actionArguments)
    (locked : request.Locked crypto guid first second) (executor : Option Executor) :
    Lockstep (Indistinct crypto guid first second) Eq
      (SecretsController.invoke crypto request
        (SetExecutorFilter.setExecutor executor actionArguments)).run
      (SecretsController.invoke crypto request
        (SetExecutorFilter.setExecutor executor actionArguments)).run := by
  have reaches := invoked crypto bound executor
  generalize (SecretsController.invoke crypto request
    (SetExecutorFilter.setExecutor executor actionArguments)).run = program at reaches ⊢
  cases reaches with
  | createSecret endpoint =>
      apply Lockstep.value
      exact lockstep_createSecret _ _
  | @revealSecret body endpoint =>
      apply Lockstep.value
      exact lockstep_reveal lawful (locked body endpoint)
  | getSecretsCreatedByUser endpoint =>
      apply Lockstep.value
      exact lockstep_getSecretsCreatedByUser _ _

theorem lockstep_request (lawful : crypto.Lawful)
    (locked : request.Locked crypto guid first second) :
    Lockstep (Indistinct crypto guid first second) Eq (request.program crypto)
      (request.program crypto) := by
  cases bound : request.endpoint.actionArguments with
  | none =>
      unfold ApiRequest.program ApiRequest.task
      rw [bound]
      exact .done rfl
  | some actionArguments =>
      rw [program_of_bound crypto bound]
      apply (lockstep_tryGet request.filterUser request.user).bind
      intro outcome _ same
      subst same
      cases outcome with
      | error exception => exact .done rfl
      | ok executor => exact lockstep_invoke lawful bound locked executor

theorem setExecutor_withSecret (executor : Option Executor) (body : CreateSecretRequest)
    (secretive : Secretive) :
    SetExecutorFilter.setExecutor executor
        [.createSecretRequest (deserialize (body.withSecret secretive))] =
      [.createSecretRequest (({ body with executor } : CreateSecretRequest).withSecret
        secretive)] :=
  rfl

theorem isValidCreate_withSecret (body : CreateSecretRequest) (secretive : Secretive) :
    ModelState.isValidCreate (body.withSecret secretive) = body.ttl.isSome :=
  Bool.and_true body.ttl.isSome

theorem actionArguments_withSecret {body : CreateSecretRequest} {text : Utf16}
    (ttl : body.ttl = some text) (secretive : Secretive) :
    (request.withSecret body secretive).endpoint.actionArguments =
      some [.createSecretRequest (deserialize (body.withSecret secretive))] := by
  have valid : ModelState.isValidCreate (body.withSecret secretive) = true := by
    rw [isValidCreate_withSecret, ttl]
    rfl
  unfold Endpoint.actionArguments ApiRequest.withSecret
  dsimp only
  rw [Option.filter_some_pos valid]
  rfl

theorem program_withSecret_of_unlabelled {body : CreateSecretRequest}
    (ttl : body.ttl = none) (secretive : Secretive) :
    (request.withSecret body secretive).program crypto = .done (.ok .invalidModelState) := by
  have invalid : ¬ ModelState.isValidCreate (body.withSecret secretive) = true := by
    rw [isValidCreate_withSecret, ttl]
    exact Bool.false_ne_true
  have unbound : (request.withSecret body secretive).endpoint.actionArguments = none := by
    unfold Endpoint.actionArguments ApiRequest.withSecret
    dsimp only
    rw [Option.filter_some_eq_none.mpr invalid]
    rfl
  unfold ApiRequest.program ApiRequest.task
  rw [unbound]
  rfl

theorem lockstep_twins (lawful : crypto.Lawful) {body : CreateSecretRequest}
    {lifetime : TimeToLive} (left right : Secretive)
    (label : CreateSecretRequestValidator.isTimeToLive body.ttl = true →
      body.ttl = some lifetime.getStringValue) :
    Lockstep (Indistinct crypto request.generated.newGuid.value
        (left.contents request.generated lifetime)
        (right.contents request.generated lifetime)) Eq
      ((request.withSecret body left).program crypto)
      ((request.withSecret body right).program crypto) := by
  cases ttl : body.ttl with
  | none =>
      rw [program_withSecret_of_unlabelled ttl, program_withSecret_of_unlabelled ttl]
      exact .done rfl
  | some text =>
      rw [program_of_bound crypto (actionArguments_withSecret ttl left),
        program_of_bound crypto (actionArguments_withSecret ttl right)]
      apply (lockstep_tryGet request.filterUser request.user).bind
      intro outcome _ same
      subst same
      cases outcome with
      | error exception => exact .done rfl
      | ok executor =>
          have labelled : CreateSecretRequestValidator.isTimeToLive
              ({ body with executor } : CreateSecretRequest).ttl = true →
              ({ body with executor } : CreateSecretRequest).ttl =
                some lifetime.getStringValue := label
          dsimp only
          rw [setExecutor_withSecret, setExecutor_withSecret]
          unfold SecretsController.invoke ApiRequest.withSecret
          dsimp only
          rw [ExceptT.run_map, ExceptT.run_map]
          apply Lockstep.value
          exact lockstep_createTwins lawful left right labelled

/-- Whoever does not present what opens the secret is answered the same whatever its text
and its passphrase are, at the same accesses, in every overlap of requests. -/
theorem overlapping_outcomes_independent_of_secret {ι : Type} [DecidableEq ι]
    (requests : ι → ApiRequest) (creator : ι) (body : CreateSecretRequest)
    (left right : Secretive)
    (ideal : crypto.Ideal (PresentedBy requests)
      (eitherContents (requests creator).generated left right))
    (locked : ∀ call asked, (requests call).endpoint = .revealSecret (some asked) →
      asked.guid = (requests creator).generated.newGuid.value →
        ∀ presented ∈ asked.passphrase,
          deriveKey crypto presented (requests creator).generated.salt.toList ≠
              deriveKey crypto left.passphrase (requests creator).generated.salt.toList ∧
            deriveKey crypto presented (requests creator).generated.salt.toList ≠
              deriveKey crypto right.passphrase (requests creator).generated.salt.toList)
    (start : Db) {trace : List (Event ι)} {config : Config ι Db ApiOutcome}
    (run : Run (fun call => (Function.update requests creator
      ((requests creator).withSecret body left) call).program crypto) (.initial start)
        trace config) :
    ∃ other, Run (fun call => (Function.update requests creator
        ((requests creator).withSecret body right) call).program crypto) (.initial start)
          trace other ∧
      ∀ call outcome, config.threads call = .returned outcome ↔
        other.threads call = .returned outcome := by
  obtain ⟨lifetime, label⟩ := exists_lifetime body.ttl
  have lockstep : ∀ call, Lockstep
      (Indistinct crypto (requests creator).generated.newGuid.value
        (left.contents (requests creator).generated lifetime)
        (right.contents (requests creator).generated lifetime)) Eq
      ((Function.update requests creator
        ((requests creator).withSecret body left) call).program crypto)
      ((Function.update requests creator
        ((requests creator).withSecret body right) call).program crypto) := by
    intro call
    by_cases creates : call = creator
    · subst creates
      rw [Function.update_self, Function.update_self]
      exact lockstep_twins ideal.toLawful left right label
    · rw [Function.update_of_ne creates, Function.update_of_ne creates]
      apply lockstep_request ideal.toLawful
      intro asked endpoint generated request same named presented presents
      cases same
      exact resists_of_ideal ideal ⟨call, asked, endpoint, presents⟩
        (locked call asked endpoint named presented presents) lifetime
  obtain ⟨other, follows, abreast⟩ := run.follow lockstep (.refl start)
  exact ⟨other, follows, abreast.returned_iff⟩

end Requests

/-! A creation, overlapped by a reveal with a guessed passphrase. -/

namespace OverlappingGuess

open TwoRuns

def requests (creates : Bool) : ApiRequest where
  user := ⟨[]⟩
  endpoint :=
    if creates then .createSecret (some WeekSecret.request)
    else .revealSecret (some
      ⟨(default : Generated).newGuid.value, some (Utf16.ofString "guess")⟩)
  filterUser := default
  controllerUser := default
  generated := default

def programs (secretive : Secretive) (call : Bool) : Program Db ApiOutcome :=
  (Function.update requests true
    ((requests true).withSecret WeekSecret.request secretive) call).program Crypto.byteSum

theorem locked (call : Bool) (asked : RevealSecretRequest)
    (endpoint : (requests call).endpoint = .revealSecret (some asked))
    (_ : asked.guid = (requests true).generated.newGuid.value) :
    ∀ presented ∈ asked.passphrase,
      deriveKey Crypto.byteSum presented (requests true).generated.salt.toList ≠
          deriveKey Crypto.byteSum left.passphrase
            (requests true).generated.salt.toList ∧
        deriveKey Crypto.byteSum presented (requests true).generated.salt.toList ≠
          deriveKey Crypto.byteSum right.passphrase
            (requests true).generated.salt.toList := by
  cases call with
  | true => cases endpoint
  | false =>
      cases endpoint
      intro presented presents
      cases presents
      exact ⟨by decide, by decide⟩

theorem run : ∃ trace config, Run (programs left) (.initial default) trace config ∧
    ∀ call, ∃ outcome, config.threads call = .returned outcome := by
  have invoked : Run (programs left) (.initial default)
      ([] ++ [.invoke true] ++ [.invoke false]) _ :=
    .snoc (.snoc .nil (.invoke rfl)) (.invoke rfl)
  obtain ⟨_, created⟩ := invoked.finish true rfl
  obtain ⟨trace, guessed⟩ := created.finish false rfl
  refine ⟨trace, _, guessed, ?_⟩
  intro call
  cases call with
  | true => exact ⟨_, rfl⟩
  | false => exact ⟨_, rfl⟩

end OverlappingGuess

open OverlappingGuess TwoRuns in
theorem overlapping_outcomes_independent_of_secret_guess :
    ∃ trace config other, Run (programs left) (.initial default) trace config ∧
      Run (programs right) (.initial default) trace other ∧
      ∀ call, ∃ outcome, config.threads call = .returned outcome ∧
        other.threads call = .returned outcome := by
  obtain ⟨trace, config, run, complete⟩ := OverlappingGuess.run
  obtain ⟨other, follows, same⟩ := overlapping_outcomes_independent_of_secret
    requests true WeekSecret.request left right (Crypto.byteSum_ideal _ _)
    OverlappingGuess.locked default run
  refine ⟨trace, config, other, run, follows, ?_⟩
  intro call
  obtain ⟨outcome, returned⟩ := complete call
  exact ⟨outcome, returned, (same call outcome).mp returned⟩

end SecretServer.Api
