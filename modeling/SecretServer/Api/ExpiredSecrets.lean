import SecretServer.Api.ConcurrentRequests

namespace SecretServer.Api

open Text Data Concurrency Database Services SecretService

/-! Requests after a secret's time is up.  None of them gets at the secret, and none of
them gets rid of it. -/

/-- The secret is stored, and the users of the start can still be looked up. -/
structure StillStored (start : Db) (row : Secret) (db : Db) : Prop where
  stored : db.secrets.find? row.id = some row
  users : ∀ login user, start.findByAuthProviderId? login = some user →
    db.findByAuthProviderId? login = some user

/-- What is left of a request for the secret: the refusal that it is too late, unless
the request is refused for something else first. -/
inductive RefusedLate (row : Secret) (latestTime : DateTime) (body : RevealSecretRequest) :
    Exception → Prop
  | expired : RefusedLate row latestTime body (expired row.id row.createdAt latestTime)
  | invalid {exception : Exception} (refused : precheck body = .error exception) :
      RefusedLate row latestTime body exception
  | unprovisioned {constraint : DbConstraint} :
      RefusedLate row latestTime body (.dbUpdate constraint)

/-- The answer to a request, as far as the secret is concerned: none to a reveal that
leaves its passphrase out. -/
def AnsweredLate (start : Db) (row : Secret) (latestTime : DateTime) (request : ApiRequest)
    (outcome : ApiOutcome) : Prop :=
  match request.endpoint with
  | .createSecret _ => True
  | .revealSecret none => True
  | .revealSecret (some body) =>
      body.guid = row.id →
        (∃ exception, outcome = .error exception ∧
          RefusedLate row latestTime body exception) ∨
        (body.passphrase = none ∧ outcome = .ok .invalidModelState)
  | .getSecretsCreatedByUser =>
      ∀ login user, request.user.login? = some login →
        start.findByAuthProviderId? login = some user → row.userId = some user.id →
          user.id ≠ Guid.empty →
          ∃ listed, outcome = .ok (.value (.secretsCreatedByUser listed)) ∧
            ⟨row.id, row.ttl, row.createdAt⟩ ∈ listed

section Requests

variable {Key : Type} {crypto : Crypto Key} {start db : Db} {row : Secret}
  {latestTime : DateTime}

theorem StillStored.withUsers (still : StillStored start row db) (user : User)
    (absent : db.users.find? user.materialized.id = none) :
    StillStored start row (db.withUsers (db.users.insert user.materialized absent)) where
  stored := still.stored
  users login known found := by
    have appended : (db.withUsers
          (db.users.insert user.materialized absent)).findByAuthProviderId? login =
        (db.findByAuthProviderId? login).or ([user.materialized].find? fun added =>
          db.collation added.authProviderId = db.collation login) := List.find?_append ..
    rw [appended, still.users login known found, Option.some_or]

theorem StillStored.insertSecret (still : StillStored start row db) {secret : Secret}
    (absent : db.secrets.find? secret.materialized.id = none) :
    StillStored start row (db.withSecrets (db.secrets.insert secret.materialized absent)) where
  stored := by
    have differs : secret.materialized.id ≠ row.id := by
      intro same
      rw [same, still.stored] at absent
      cases absent
    exact (Table.find?_insert_ne _ _ absent differs).trans still.stored
  users := still.users

theorem StillStored.deleteSecret (still : StillStored start row db) {id : Guid}
    (differs : row.id ≠ id) :
    StillStored start row (db.withSecrets (db.secrets.delete id)) where
  stored := (Table.find?_delete_ne _ differs).trans still.stored
  users := still.users

/-! The filter and the action look their user up and may create one. -/

structure Provisioned (start : Db) (principal : ClaimsPrincipal)
    (outcome : ExecutorService.Outcome) : Prop where
  known : ∀ login user, principal.login? = some login →
    start.findByAuthProviderId? login = some user → outcome = .ok (some (toExecutor user))
  refused : ∀ exception, outcome = .error exception →
    ∃ constraint, exception = .dbUpdate constraint

theorem maintains_insertUser (newUser : NewUser) {principal : ClaimsPrincipal}
    {login : Utf16} (authenticated : principal.login? = some login)
    (unknown : ∀ user, start.findByAuthProviderId? login ≠ some user) :
    Maintains (StillStored start row) (Provisioned start principal)
      (Program.atomically (ExecutorService.insert newUser login)) := by
  apply Maintains.atomically
  intro db still
  have stranger : ∀ other user, principal.login? = some other →
      start.findByAuthProviderId? other ≠ some user := by
    intro other user same
    rw [authenticated] at same
    cases same
    exact unknown user
  unfold ExecutorService.insert
  cases inserted : db.insertUser (ExecutorService.provisioned newUser login) with
  | ok next =>
      obtain ⟨-, -, absent, rfl⟩ := Db.insertUser_eq_ok_iff.mp inserted
      have kept : StillStored start row (db.withUsers (db.users.insert
          (ExecutorService.provisioned newUser login).materialized absent)) :=
        still.withUsers (ExecutorService.provisioned newUser login) absent
      refine ⟨kept, ?_, nofun⟩
      intro other user same found
      exact absurd found (stranger other user same)
  | error exception =>
      refine ⟨still, ?_, ?_⟩
      · intro other user same found
        exact absurd found (stranger other user same)
      · intro _ same
        cases same
        exact Db.insertUser_error inserted

theorem maintains_tryGet (newUser : NewUser) (principal : ClaimsPrincipal) :
    Maintains (StillStored start row) (Provisioned start principal)
      (ExecutorService.tryGet newUser principal).run := by
  cases authenticated : principal.login? with
  | none =>
      rw [ExecutorService.run_tryGet_anonymous _ authenticated]
      refine ⟨?_, nofun⟩
      intro login user same
      rw [authenticated] at same
      cases same
  | some login =>
      rw [ExecutorService.run_tryGet_authenticated _ authenticated]
      intro db still
      refine ⟨still, ?_⟩
      dsimp only
      cases found : db.findByAuthProviderId? login with
      | some user =>
          refine ⟨?_, nofun⟩
          intro other known same knownFound
          rw [authenticated] at same
          cases same
          rw [still.users login known knownFound] at found
          cases found
          rfl
      | none =>
          refine maintains_insertUser newUser authenticated ?_
          intro user known
          rw [still.users login user known] at found
          cases found

/-! The service calls. -/

theorem maintains_insert (secret : Secret) :
    Maintains (StillStored start row) (fun _ => True)
      (Program.atomically (ServiceCall.insert secret)) := by
  apply Maintains.atomically
  intro db still
  refine ⟨?_, trivial⟩
  unfold ServiceCall.insert
  cases inserted : db.insertSecret secret with
  | ok next =>
      obtain ⟨-, -, absent, rfl⟩ := Db.insertSecret_eq_ok_iff.mp inserted
      exact still.insertSecret absent
  | error exception => exact still

theorem maintains_createSecret (generated : Generated) (request : CreateSecretRequest) :
    Maintains (StillStored start row) (fun _ => True)
      ((ServiceCall.createSecret generated request).program crypto) := by
  rw [ServiceCall.program_createSecret]
  cases prepare crypto generated request with
  | error exception => trivial
  | ok secret => exact maintains_insert secret

theorem maintains_dispose {secret : Secret} (differs : row.id ≠ secret.id)
    (response : RevealSecretResponse) :
    Maintains (StillStored start row) (fun _ => True)
      (Program.atomically (ServiceCall.dispose secret response)) := by
  apply Maintains.atomically
  intro db still
  refine ⟨?_, trivial⟩
  unfold ServiceCall.dispose
  cases deleted : db.deleteSecret secret.id with
  | ok next =>
      obtain ⟨-, rfl⟩ := Db.deleteSecret_eq_ok_iff.mp deleted
      exact still.deleteSecret differs
  | error exception => exact still

theorem openSecret_of_late {utcNow : DateTime} {body : RevealSecretRequest}
    (deadline : getAtTheLatest row = .ok latestTime)
    (late : latestTime.ticks < utcNow.ticks) :
    openSecret crypto utcNow body row =
      .error (expired body.guid row.createdAt latestTime) := by
  unfold openSecret
  rw [deadline]
  exact if_pos late

theorem maintains_reveal {generated : Generated} {body : RevealSecretRequest}
    (deadline : getAtTheLatest row = .ok latestTime)
    (late : body.guid = row.id → latestTime.ticks < (generated.utcNow 0).ticks) :
    Maintains (StillStored start row)
      (fun outcome => body.guid = row.id → ∃ exception, outcome = .error exception ∧
        RefusedLate row latestTime body exception)
      ((ServiceCall.revealAndDisposeSecret generated body).program crypto) := by
  rw [ServiceCall.program_reveal]
  cases accepted : precheck body with
  | error exception =>
      intro _
      exact ⟨exception, rfl, .invalid accepted⟩
  | ok _ =>
      intro db still
      refine ⟨still, ?_⟩
      dsimp only
      by_cases named : body.guid = row.id
      · rw [named, still.stored]
        unfold ServiceCall.afterLookup
        dsimp only
        rw [openSecret_of_late deadline (late named), named]
        intro _
        exact ⟨_, rfl, .expired⟩
      · cases found : db.secrets.find? body.guid with
        | none =>
            intro same
            exact absurd same named
        | some secret =>
            unfold ServiceCall.afterLookup
            dsimp only
            cases openSecret crypto (generated.utcNow 0) body secret with
            | error exception =>
                intro same
                exact absurd same named
            | ok response =>
                have differs : row.id ≠ secret.id := by
                  rw [Table.key_of_find? found]
                  exact Ne.symm named
                refine (maintains_dispose differs response).weaken ?_
                intro _ _ same
                exact absurd same named

theorem maintains_list (request : BaseAuthenticatedRequest) :
    Maintains (StillStored start row)
      (fun outcome => row.userId = some request.executor.userId →
        request.executor.userId ≠ Guid.empty →
        ∃ listed, outcome = .ok (.secretsCreatedByUser listed) ∧
          ⟨row.id, row.ttl, row.createdAt⟩ ∈ listed)
      ((ServiceCall.getSecretsCreatedByUser request).program crypto) := by
  rw [ServiceCall.program_list]
  split
  next empty =>
    intro _ identified
    exact absurd empty identified
  next =>
    intro db still
    refine ⟨still, ?_⟩
    intro owner _
    have kept : row ∈ db.secrets.rows.filter
        fun secret => secret.userId = some request.executor.userId :=
      List.mem_filter.mpr ⟨Table.mem_of_find? still.stored, by simpa using owner⟩
    have shown : toGridResponse row ∈ ServiceCall.listing request.executor.userId db :=
      List.mem_map_of_mem kept
    exact ⟨_, rfl, shown⟩

theorem maintains_getSecretsCreatedByUser (newUser : NewUser) (principal : ClaimsPrincipal) :
    Maintains (StillStored start row)
      (fun outcome => ∀ login user, principal.login? = some login →
        start.findByAuthProviderId? login = some user → row.userId = some user.id →
          user.id ≠ Guid.empty →
          ∃ listed, outcome = .ok (.secretsCreatedByUser listed) ∧
            ⟨row.id, row.ttl, row.createdAt⟩ ∈ listed)
      (SecretsController.getSecretsCreatedByUser crypto newUser principal).run := by
  rw [run_getSecretsCreatedByUser]
  apply (maintains_tryGet newUser principal).bind
  intro outcome provisioned
  cases outcome with
  | error exception =>
      intro login user authenticated found
      cases provisioned.known login user authenticated found
  | ok executor =>
      cases executor with
      | none =>
          intro login user authenticated found
          cases provisioned.known login user authenticated found
      | some executor =>
          refine (maintains_list ⟨executor⟩).weaken ?_
          intro answer lists login user authenticated found owner named
          cases provisioned.known login user authenticated found
          exact lists owner named

theorem maintains_invoke {request : ApiRequest} {actionArguments : List ActionArgument}
    (bound : request.endpoint.actionArguments = some actionArguments)
    (deadline : getAtTheLatest row = .ok latestTime)
    (late : ∀ body, request.endpoint = .revealSecret (some body) → body.guid = row.id →
      latestTime.ticks < (request.generated.utcNow 0).ticks)
    (executor : Option Executor) :
    Maintains (StillStored start row) (AnsweredLate start row latestTime request)
      (SecretsController.invoke crypto request
        (SetExecutorFilter.setExecutor executor actionArguments)).run := by
  have reaches := invoked crypto bound executor
  generalize (SecretsController.invoke crypto request
    (SetExecutorFilter.setExecutor executor actionArguments)).run = program at reaches ⊢
  unfold AnsweredLate
  cases reaches with
  | createSecret endpoint =>
      rw [endpoint]
      apply Maintains.map
      exact maintains_createSecret _ _
  | @revealSecret body endpoint =>
      rw [endpoint]
      apply Maintains.map
      refine (maintains_reveal deadline (late body endpoint)).weaken ?_
      intro outcome refused named
      obtain ⟨exception, rfl, reason⟩ := refused named
      exact .inl ⟨exception, rfl, reason⟩
  | getSecretsCreatedByUser endpoint =>
      rw [endpoint]
      apply Maintains.map
      refine (maintains_getSecretsCreatedByUser _ _).weaken ?_
      intro outcome lists login user authenticated found owner named
      obtain ⟨listed, rfl, member⟩ := lists login user authenticated found owner named
      exact ⟨listed, rfl, member⟩

theorem maintains_request {request : ApiRequest}
    (deadline : getAtTheLatest row = .ok latestTime)
    (late : ∀ body, request.endpoint = .revealSecret (some body) → body.guid = row.id →
      latestTime.ticks < (request.generated.utcNow 0).ticks) :
    Maintains (StillStored start row) (AnsweredLate start row latestTime request)
      (request.program crypto) := by
  cases bound : request.endpoint.actionArguments with
  | none =>
      unfold ApiRequest.program ApiRequest.task
      rw [bound]
      change AnsweredLate start row latestTime request _
      unfold AnsweredLate
      cases endpoint : request.endpoint with
      | createSecret body => trivial
      | revealSecret body =>
          cases body with
          | none => trivial
          | some body =>
              intro _
              rw [endpoint] at bound
              have invalid := Endpoint.revealSecret_unbound bound
              have missing : body.passphrase = none := by
                simpa [ModelState.isValidReveal, ModelState.hasRequired] using invalid
              exact .inr ⟨missing, rfl⟩
      | getSecretsCreatedByUser =>
          rw [endpoint] at bound
          cases bound
  | some actionArguments =>
      rw [program_of_bound crypto bound]
      apply (maintains_tryGet request.filterUser request.user).bind
      intro outcome provisioned
      cases outcome with
      | ok executor => exact maintains_invoke bound deadline late executor
      | error exception =>
          obtain ⟨constraint, rfl⟩ := provisioned.refused exception rfl
          change AnsweredLate start row latestTime request _
          unfold AnsweredLate
          cases endpoint : request.endpoint with
          | createSecret body => trivial
          | revealSecret body =>
              cases body with
              | none => trivial
              | some body =>
                  intro _
                  exact .inl ⟨_, rfl, .unprovisioned⟩
          | getSecretsCreatedByUser =>
              intro login user authenticated found
              cases provisioned.known login user authenticated found

/-- Once a secret's time is up it stays where it is, whatever requests overlap: it is
not disclosed, not removed, and still listed to the user who created it. -/
theorem expired_secret_outlives_every_overlap {ι : Type} [DecidableEq ι]
    {requests : ι → ApiRequest} (stored : start.secrets.find? row.id = some row)
    (deadline : getAtTheLatest row = .ok latestTime)
    (late : ∀ call body, (requests call).endpoint = .revealSecret (some body) →
      body.guid = row.id → latestTime.ticks < ((requests call).generated.utcNow 0).ticks)
    {trace : List (Event ι)} {config : Config ι Db ApiOutcome}
    (run : Run (fun call => (requests call).program crypto) (.initial start) trace config) :
    config.shared.secrets.find? row.id = some row ∧
      ∀ call outcome, config.threads call = .returned outcome →
        AnsweredLate start row latestTime (requests call) outcome := by
  have initial : StillStored start row start := ⟨stored, fun _ _ found => found⟩
  obtain ⟨still, answered⟩ := maintained
    (fun call => maintains_request deadline (late call)) initial run
  exact ⟨still.stored, answered⟩

end Requests

/-! A user's secret for a week, two hours after the first tick: a reveal with the right
passphrase, one with another and the user's listing overlap. -/

namespace LateRequests

open WeekSecret

inductive LateCall where
  | rightPassphrase
  | otherPassphrase
  | listing
  deriving DecidableEq

def owner : User := { id := 1, authProviderId := Utf16.ofString "auth0|1" }

def caller : ClaimsPrincipal := ⟨[⟨.nameIdentifier, owner.authProviderId⟩]⟩

def row : Secret := { secret.materialized with userId := some owner.id }

def stored : Db where
  collation := id
  users := Table.empty.insert owner rfl
  secrets := Table.empty.insert row rfl

def oneHourLater : DateTime := ⟨DateTime.ticksPerHour, .unspecified, by decide⟩

theorem deadline : getAtTheLatest row = .ok oneHourLater := by
  have labelled : row.ttl = some TimeToLive.week.getStringValue := rfl
  rw [getAtTheLatest_of_label labelled]
  exact TimeToLive.deadline_of_le (by decide)

def requests (call : LateCall) : ApiRequest where
  user := caller
  endpoint := match call with
    | .rightPassphrase => .revealSecret (some ⟨row.id, request.passphrase⟩)
    | .otherPassphrase => .revealSecret (some ⟨row.id, some (Utf16.ofString "word")⟩)
    | .listing => .getSecretsCreatedByUser
  filterUser := default
  controllerUser := default
  generated := revealing

def programs (call : LateCall) : Program Db ApiOutcome :=
  (requests call).program Crypto.byteSum

theorem late (call : LateCall) (body : RevealSecretRequest)
    (_ : (requests call).endpoint = .revealSecret (some body)) (_ : body.guid = row.id) :
    oneHourLater.ticks < ((requests call).generated.utcNow 0).ticks := by
  change oneHourLater.ticks < twoHoursLater.ticks
  decide

/-- The listing's filter looks the user up before the reveals, its action after them. -/
theorem run : ∃ trace config, Run programs (.initial stored) trace config ∧
    ∀ call, ∃ outcome, config.threads call = .returned outcome := by
  have invoked : Run programs (.initial stored) ([] ++ [.invoke .rightPassphrase] ++
      [.invoke .otherPassphrase] ++ [.invoke .listing] ++ [.access .listing]) _ :=
    .snoc (.snoc (.snoc (.snoc .nil (.invoke rfl)) (.invoke rfl)) (.invoke rfl))
      (.access rfl)
  obtain ⟨_, first⟩ := invoked.finish .rightPassphrase rfl
  obtain ⟨_, second⟩ := first.finish .otherPassphrase rfl
  obtain ⟨trace, listed⟩ := second.finish .listing rfl
  refine ⟨trace, _, listed, ?_⟩
  intro call
  cases call with
  | rightPassphrase => exact ⟨_, rfl⟩
  | otherPassphrase => exact ⟨_, rfl⟩
  | listing => exact ⟨_, rfl⟩

end LateRequests

open LateRequests in
theorem expired_secret_outlives_every_overlap_lateRequests :
    ∃ trace config, Run programs (.initial stored) trace config ∧
      config.shared.secrets.find? row.id = some row ∧
      (∃ exception, config.threads .rightPassphrase = .returned (.error exception)) ∧
      (∃ exception, config.threads .otherPassphrase = .returned (.error exception)) ∧
      ∃ listed,
        config.threads .listing = .returned (.ok (.value (.secretsCreatedByUser listed))) ∧
          ⟨row.id, row.ttl, row.createdAt⟩ ∈ listed := by
  obtain ⟨trace, config, run, returned⟩ := LateRequests.run
  have present : stored.secrets.find? row.id = some row :=
    Table.find?_insert_self Table.empty row rfl
  obtain ⟨still, answered⟩ :=
    expired_secret_outlives_every_overlap present deadline late run
  obtain ⟨_, right⟩ := returned .rightPassphrase
  obtain ⟨_, other⟩ := returned .otherPassphrase
  obtain ⟨_, listing⟩ := returned .listing
  have known : stored.findByAuthProviderId? owner.authProviderId = some owner := by decide
  refine ⟨trace, config, run, still, ?_, ?_, ?_⟩
  · rcases answered _ _ right rfl with ⟨exception, rfl, _⟩ | ⟨missing, _⟩
    · exact ⟨exception, right⟩
    · cases missing
  · rcases answered _ _ other rfl with ⟨exception, rfl, _⟩ | ⟨missing, _⟩
    · exact ⟨exception, other⟩
    · cases missing
  · obtain ⟨listed, rfl, member⟩ :=
      answered _ _ listing _ owner rfl known rfl Guid.one_ne_empty
    exact ⟨listed, listing, member⟩

end SecretServer.Api
