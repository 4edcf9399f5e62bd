import SecretServer.Api.SharedVault
import SecretServer.Concurrency.AtomicObject
import SecretServer.Services.Serializability

namespace SecretServer.Api

open Text Data Concurrency Database Services SecretService Account
open ServiceCall (afterLookup)

/-! Overlapping requests, each with its filter, its action and its service call, that
implement the shared vault.  Only provisioning a new user can come between: of requests
that race to create one user all but one may be refused. -/

def ApiRequest.createdId? (request : ApiRequest) : Option Guid :=
  match request.endpoint with
  | .createSecret (some _) => some request.generated.newGuid.value
  | _ => none

abbrev ApiRequest.newUserId (request : ApiRequest) : Guid := request.filterUser.newGuid.value

section Requests

variable {ι Key : Type} (requests : ι → ApiRequest) (start : Db)

/-- The ids that `Guid.NewGuid` gives the requests are new, and no two are equal. -/
structure FreshRequests : Prop where
  secrets_distinct : ∀ first second guid, (requests first).createdId? = some guid →
    (requests second).createdId? = some guid → first = second
  secrets_unused : ∀ call guid, (requests call).createdId? = some guid →
    start.secrets.find? guid = none
  users_distinct : ∀ first second,
    (requests first).newUserId = (requests second).newUserId → first = second
  users_unused : ∀ call, start.users.find? (requests call).newUserId = none

/-- The user of the request may fail to be created: it is not there at the start, and its
login does not fit the column or comes with another of the requests. -/
def Refusable (call : ι) : Prop :=
  ∃ login, (requests call).user.login? = some login ∧
    start.findByAuthProviderId? login = none ∧
    (Db.authProviderIdWidth < login.length ∨
      ∃ other, other ≠ call ∧ SameUser start.collation login (requests other).user)

/-- The passphrases that the requests present. -/
def PresentedBy : Set Utf16 :=
  {passphrase | ∃ call body, (requests call).endpoint = .revealSecret (some body) ∧
    body.passphrase = some passphrase}

/-- What the vault keeps already and what the requests ask it to keep. -/
def KeptBy (vault : SharedVault) : Set Contents :=
  {contents | (∃ entry ∈ vault.entries.rows, entry.contents = contents) ∨
    ∃ call body, (requests call).endpoint = .createSecret (some body) ∧
      Asks body (requests call).generated contents}

/-- No reveal of the requests opens the contents under a key that is not theirs. -/
def OpensRightlyFor (crypto : Crypto Key) (contents : Contents) : Prop :=
  ∀ call body, (requests call).endpoint = .revealSecret (some body) →
    contents.OpensRightly crypto body.passphrase

variable [DecidableEq Key] (crypto : Crypto Key)

inductive SharedVault.Step : ObjectSpec ι SharedVault VaultAnswer
  | handled {call : ι} {vault : SharedVault} :
      Step call vault (vault.handle crypto start.collation (requests call)).1
        (vault.handle crypto start.collation (requests call)).2
  | refused {call : ι} {vault : SharedVault} (refusable : Refusable requests start call) :
      Step call vault (.error .internalServerError) vault

abbrev RequestAccount (ι : Type) := Account ι Db SharedVault VaultAnswer

def KnownSecret (account : RequestAccount ι) (guid : Guid) : Prop :=
  start.secrets.find? guid ≠ none ∨
    ∃ call ∈ account.log.map Prod.fst, (requests call).createdId? = some guid

structure Consistent (account : RequestAccount ι) : Prop where
  grows : Grows start account.shared
  shows : Shows crypto account.shared account.object
  users : ∀ user ∈ account.shared.users.rows, user ∈ start.users.rows ∨
    ∃ call, user.id = (requests call).newUserId ∧
      (requests call).user.login? = some user.authProviderId
  known : ∀ guid, account.shared.secrets.find? guid ≠ none →
    KnownSecret requests start account guid
  rightly : ∀ entry ∈ account.object.entries.rows,
    OpensRightlyFor requests crypto entry.contents

structure Interferes (call : ι) (before after : RequestAccount ι) : Prop where
  grows : Grows before.shared after.shared
  users : ∀ user ∈ after.shared.users.rows,
    user ∈ before.shared.users.rows ∨ user.id = (requests call).newUserId
  secrets : ∀ guid, after.shared.secrets.find? guid = before.shared.secrets.find? guid ∨
    after.shared.secrets.find? guid = none ∨
    ((requests call).createdId? = some guid ∧ before.Pending call)

def object : ObjectDiscipline ι Db SharedVault VaultAnswer where
  spec := SharedVault.Step requests start crypto
  invariant := Consistent requests start crypto
  interference := Interferes requests

/-! What a request may rely on at each of its stages. -/

structure Ready (call : ι) (account : RequestAccount ι) : Prop where
  pending : account.Pending call
  noUser : ∀ user ∈ account.shared.users.rows, user.id ≠ (requests call).newUserId

structure Granted (call : ι) (executor : Option Executor) (account : RequestAccount ι) :
    Prop where
  pending : account.Pending call
  actsAs : ActsAs account.shared (requests call).user (executor.map Executor.userId)

structure Refused (call : ι) (exception : Exception) (account : RequestAccount ι) :
    Prop where
  pending : account.Pending call
  refusable : Refusable requests start call
  constraint : ∃ constraint, exception = .dbUpdate constraint

/-- A reveal that has looked its secret up and is about to delete it. -/
structure AboutToDispose (call : ι) (secret : Secret) (account : RequestAccount ι) :
    Prop where
  pending : account.Pending call
  known : KnownSecret requests start account secret.id
  row : account.shared.secrets.find? secret.id = some secret ∨
    account.shared.secrets.find? secret.id = none

end Requests

section Stability

variable {ι Key : Type} [DecidableEq Key] {requests : ι → ApiRequest} {start : Db}
  {crypto : Crypto Key} {call : ι} {account before after : RequestAccount ι}

theorem Interferes.refl (call : ι) (account : RequestAccount ι) :
    Interferes requests call account account :=
  ⟨.refl _, fun _ member => .inl member, fun _ => .inl rfl⟩

theorem ready_stable (fresh : FreshRequests requests start) (call : ι) :
    (object requests start crypto).discipline.Stable call (Ready requests call) := by
  intro other before after differs invariant guarantee ready
  refine ⟨guarantee.1.pending differs ready.pending, ?_⟩
  intro user member own
  rcases guarantee.2.users user member with old | others
  · exact ready.noUser user old own
  · exact differs (fresh.users_distinct other call (others.symm.trans own))

theorem granted_stable (call : ι) (executor : Option Executor) :
    (object requests start crypto).discipline.Stable call
      (Granted requests call executor) := by
  intro other before after differs invariant guarantee granted
  exact ⟨guarantee.1.pending differs granted.pending,
    granted.actsAs.grow guarantee.2.grows⟩

theorem KnownSecret.mono {guid : Guid} (known : KnownSecret requests start before guid)
    (kept : ∀ caller ∈ before.log.map Prod.fst, caller ∈ after.log.map Prod.fst) :
    KnownSecret requests start after guid := by
  rcases known with original | ⟨creator, member, created⟩
  · exact .inl original
  · exact .inr ⟨creator, kept creator member, created⟩

theorem FreshRequests.not_created (fresh : FreshRequests requests start) {guid : Guid}
    (known : KnownSecret requests start account guid) (pending : account.Pending call) :
    (requests call).createdId? ≠ some guid := by
  intro created
  rcases known with original | ⟨creator, member, same⟩
  · exact original (fresh.secrets_unused call guid created)
  · exact pending (fresh.secrets_distinct creator call guid same created ▸ member)

theorem aboutToDispose_stable (fresh : FreshRequests requests start) (call : ι)
    (secret : Secret) :
    (object requests start crypto).discipline.Stable call
      (AboutToDispose requests start call secret) := by
  intro other before after differs invariant guarantee disposing
  refine ⟨guarantee.1.pending differs disposing.pending,
    disposing.known.mono fun _ member => guarantee.1.mem_callers member, ?_⟩
  rcases guarantee.2.secrets secret.id with kept | gone | ⟨created, pending⟩
  · rw [kept]
    exact disposing.row
  · exact .inr gone
  · exact absurd created (fresh.not_created disposing.known pending)

end Stability

/-! What the accesses of a request do to the account. -/

section Moves

variable {ι Key : Type} [DecidableEq Key] {requests : ι → ApiRequest} {start : Db}
  {crypto : Crypto Key} {call : ι} {account : RequestAccount ι}

theorem Consistent.moves_read (consistent : Consistent requests start crypto account) :
    (object requests start crypto).discipline.Moves call id account account :=
  ⟨rfl, consistent, .silent account.shared, .refl call account⟩

omit [DecidableEq Key] in
theorem Consistent.collation (consistent : Consistent requests start crypto account) :
    account.shared.collation = start.collation :=
  consistent.grows.collation

/-- The call takes effect, on the secrets if on anything. -/
theorem Consistent.moves_commit (consistent : Consistent requests start crypto account)
    (pending : account.Pending call) {effect : Db → Db} {next : Db}
    {outcome : VaultAnswer} {vault : SharedVault} (performed : effect account.shared = next)
    (grows : Grows account.shared next) (users : next.users = account.shared.users)
    (secrets : ∀ guid, next.secrets.find? guid = account.shared.secrets.find? guid ∨
      next.secrets.find? guid = none ∨ (requests call).createdId? = some guid)
    (shows : Shows crypto next vault)
    (rightly : ∀ entry ∈ vault.entries.rows, OpensRightlyFor requests crypto entry.contents)
    (step : SharedVault.Step requests start crypto call account.object outcome vault) :
    (object requests start crypto).discipline.Moves call effect account
      (account.commit call outcome vault next) := by
  refine ⟨performed.symm, ⟨consistent.grows.trans grows, shows, ?_, ?_, rightly⟩,
    .commit pending step, grows, ?_, ?_⟩
  · intro user member
    exact consistent.users user (users ▸ member)
  · intro guid present
    rcases secrets guid with kept | gone | created
    · refine (consistent.known guid (kept ▸ present)).mono fun caller member => ?_
      exact (Records.commit pending step).mem_callers member
    · exact absurd gone present
    · exact .inr ⟨call, List.mem_map_of_mem (committed_commit account call outcome vault
        next), created⟩
  · intro user member
    exact .inl (users ▸ member)
  · intro guid
    rcases secrets guid with kept | gone | created
    · exact .inl kept
    · exact .inr (.inl gone)
    · exact .inr (.inr ⟨created, pending⟩)

theorem Consistent.moves_provision (consistent : Consistent requests start crypto account)
    {login : Utf16} (authenticated : (requests call).user.login? = some login)
    (unknown : account.shared.findByAuthProviderId? login = none)
    (absent : account.shared.users.find?
      (ExecutorService.provisioned (requests call).filterUser login).materialized.id = none)
    {effect : Db → Db} {next : Db} (performed : effect account.shared = next)
    (inserted : next = account.shared.withUsers (account.shared.users.insert
      (ExecutorService.provisioned (requests call).filterUser login).materialized absent)) :
    (object requests start crypto).discipline.Moves call effect account
      (account.silent next) := by
  have provisions : Provisions account.shared next :=
    inserted ▸ .somebody (requests call).filterUser.newGuid.nonempty unknown absent
  have gained : ∀ user ∈ next.users.rows, user ∈ account.shared.users.rows ∨
      user = (ExecutorService.provisioned (requests call).filterUser login).materialized := by
    intro user member
    rw [inserted] at member
    exact (Table.mem_insert absent).mp member
  have grows := provisions.grows
  refine ⟨performed.symm, ⟨consistent.grows.trans grows, ⟨?_, ?_, ?_, ?_⟩, ?_, ?_,
    consistent.rightly⟩, .silent next, grows, ?_, ?_⟩
  · show next.UniqueLogins
    rw [inserted]
    exact consistent.shows.unique.insert unknown absent
  · intro user member
    rcases gained user member with old | rfl
    · exact consistent.shows.named user old
    · exact (requests call).filterUser.newGuid.nonempty
  · show Table.Related _ next.secrets _
    rw [provisions.secrets]
    exact consistent.shows.entries
  · intro secret member
    exact (consistent.shows.owned secret (provisions.secrets ▸ member)).grow grows
  · intro user member
    rcases gained user member with old | rfl
    · exact consistent.users user old
    · exact .inr ⟨call, rfl, authenticated⟩
  · intro guid present
    exact consistent.known guid (provisions.secrets ▸ present)
  · intro user member
    rcases gained user member with old | rfl
    · exact .inl old
    · exact .inr rfl
  · intro guid
    exact .inl (congrArg (Table.find? · guid) provisions.secrets)

end Moves

/-! A service call that a request makes takes effect as the shared vault does. -/

section ServiceCalls

variable {ι Key : Type} [DecidableEq Key] {requests : ι → ApiRequest} {start : Db}
  {crypto : Crypto Key} {call : ι} {account : RequestAccount ι} {service : ServiceCall}
  {vault : SharedVault}

omit [DecidableEq Key] in
theorem opensRightlyFor (ideal : crypto.Ideal (PresentedBy requests) (KeptBy requests vault))
    {contents : Contents} (kept : contents ∈ KeptBy requests vault) :
    OpensRightlyFor requests crypto contents :=
  fun call body endpoint => ideal.opensRightly
    (fun _ presents => ⟨call, body, endpoint, presents⟩) kept

theorem Consistent.rightly_handle (consistent : Consistent requests start crypto account)
    (ideal : crypto.Ideal (PresentedBy requests) (KeptBy requests vault))
    {collation : Utf16 → Utf16} :
    ∀ entry ∈ (account.object.handle crypto collation (requests call)).2.entries.rows,
      OpensRightlyFor requests crypto entry.contents := by
  intro entry member
  rcases SharedVault.mem_handle member with old | ⟨body, endpoint, asks⟩
  · exact consistent.rightly entry old
  · exact opensRightlyFor ideal (.inr ⟨call, body, endpoint, asks⟩)

omit [DecidableEq Key] in
theorem run_service (crypto : Crypto Key) (service : ServiceCall) (db : Db) :
    ((service.program crypto).run db).2.collation = db.collation ∧
      ((service.program crypto).run db).2.users = db.users ∧
      ∀ guid, ((service.program crypto).run db).2.secrets.find? guid =
          db.secrets.find? guid ∨
        ((service.program crypto).run db).2.secrets.find? guid = none ∨
        service.createdId? = some guid := by
  generalize ran : (service.program crypto).run db = result
  obtain ⟨outcome, next⟩ := result
  cases ServiceCall.effect_of_run crypto ran with
  | failed => exact ⟨rfl, rfl, fun _ => .inl rfl⟩
  | listed => exact ⟨rfl, rfl, fun _ => .inl rfl⟩
  | @created _ generated request secret prepared known absent =>
      refine ⟨rfl, rfl, fun guid => ?_⟩
      rw [ServiceCall.createdId?_of_prepare prepared, Option.some.injEq]
      by_cases same : secret.id = guid
      · exact .inr (.inr same)
      · exact .inl (Table.find?_insert_ne _ secret.materialized absent same)
  | @revealed _ generated request secret response accepted found opened =>
      refine ⟨rfl, rfl, fun guid => ?_⟩
      by_cases same : guid = request.guid
      · exact .inr (.inl (same ▸ Table.find?_delete_self _ _))
      · exact .inl (Table.find?_delete_ne _ same)

/-- Run on its own, the service call answers as the shared vault and leaves what it
leaves. -/
structure Agrees (crypto : Crypto Key) (request : ApiRequest) (service : ServiceCall)
    (account : RequestAccount ι) : Prop where
  createdId : ∀ guid, service.createdId? = some guid → request.createdId? = some guid
  answer : answerOf (((service.program crypto).run account.shared).1.map .value) =
    (account.object.handle crypto account.shared.collation request).1
  shows : Shows crypto ((service.program crypto).run account.shared).2
    (account.object.handle crypto account.shared.collation request).2

theorem Agrees.step (consistent : Consistent requests start crypto account)
    (agrees : Agrees crypto (requests call) service account) :
    SharedVault.Step requests start crypto call account.object
      (answerOf (((service.program crypto).run account.shared).1.map .value))
      (account.object.handle crypto account.shared.collation (requests call)).2 := by
  rw [agrees.answer, consistent.collation]
  exact .handled

theorem Agrees.moves (consistent : Consistent requests start crypto account)
    (ideal : crypto.Ideal (PresentedBy requests) (KeptBy requests vault))
    (agrees : Agrees crypto (requests call) service account)
    (pending : account.Pending call) (effect : Db → Db)
    (performed : effect account.shared = ((service.program crypto).run account.shared).2) :
    (object requests start crypto).discipline.Moves call effect account
      (account.commit call
        (answerOf (((service.program crypto).run account.shared).1.map .value))
        (account.object.handle crypto account.shared.collation (requests call)).2
        ((service.program crypto).run account.shared).2) := by
  obtain ⟨collation, users, secrets⟩ := run_service crypto service account.shared
  refine consistent.moves_commit pending performed ⟨collation, ?_⟩ users ?_ agrees.shows
    (consistent.rightly_handle ideal) (agrees.step consistent)
  · intro user member
    rw [users]
    exact member
  · intro guid
    rcases secrets guid with kept | gone | created
    · exact .inl kept
    · exact .inr (.inl gone)
    · exact .inr (.inr (agrees.createdId guid created))

/-- A service call that has failed may take effect as late as it returns. -/
theorem Agrees.settles_error (consistent : Consistent requests start crypto account)
    (agrees : Agrees crypto (requests call) service account)
    (pending : account.Pending call) {exception : Exception}
    (failed : ((service.program crypto).run account.shared).1 = .error exception) :
    (object requests start crypto).Settles call (answerOf (.error exception)) account := by
  have step := agrees.step consistent
  have answer := agrees.answer
  rw [failed] at step answer
  rw [SharedVault.handle_of_error answer.symm] at step
  exact .inr ⟨pending, step⟩

variable {body : CreateSecretRequest} {executor : Option Executor}

theorem Consistent.agrees_create (consistent : Consistent requests start crypto account)
    (lawful : crypto.Lawful) (endpoint : (requests call).endpoint = .createSecret (some body))
    (valid : ModelState.isValidCreate body = true)
    (wellFormed : ∀ text ∈ body.secret, text.WellFormed)
    (granted : Granted requests call executor account) :
    Agrees crypto (requests call)
      (.createSecret (requests call).generated { body with executor }) account := by
  obtain ⟨answer, shows⟩ :=
    consistent.shows.create lawful endpoint valid wellFormed granted.actsAs
  refine ⟨?_, answer, shows⟩
  intro guid created
  unfold ApiRequest.createdId?
  rw [endpoint]
  exact created

theorem Consistent.agrees_reveal (consistent : Consistent requests start crypto account)
    (lawful : crypto.Lawful) {body : RevealSecretRequest}
    (endpoint : (requests call).endpoint = .revealSecret (some body))
    (valid : ModelState.isValidReveal body = true) :
    Agrees crypto (requests call)
      (.revealAndDisposeSecret (requests call).generated body) account := by
  have rightly : ∀ entry ∈ account.object.entries.rows,
      entry.contents.OpensRightly crypto body.passphrase :=
    fun entry member => consistent.rightly entry member call body endpoint
  obtain ⟨answer, shows⟩ := consistent.shows.reveal lawful endpoint valid rightly
  exact ⟨nofun, answer, shows⟩

end ServiceCalls

/-! The stages of a request keep the discipline. -/

section Stages

variable {ι Key : Type} [DecidableEq Key] {requests : ι → ApiRequest} {start : Db}
  {crypto : Crypto Key} {call : ι} {account : RequestAccount ι} {vault : SharedVault}

def AfterFilter (requests : ι → ApiRequest) (start : Db) (call : ι) :
    ExecutorService.Outcome → RequestAccount ι → Prop
  | .ok executor => Granted requests call executor
  | .error exception => Refused requests start call exception

theorem refused_stable (call : ι) (exception : Exception) :
    (object requests start crypto).discipline.Stable call
      (Refused requests start call exception) := by
  intro other before after differs invariant guarantee refused
  exact ⟨guarantee.1.pending differs refused.pending, refused.refusable, refused.constraint⟩

omit [DecidableEq Key] in
theorem Consistent.unknown_at_start (consistent : Consistent requests start crypto account)
    {login : Utf16} (unknown : account.shared.findByAuthProviderId? login = none) :
    start.findByAuthProviderId? login = none := by
  rw [Db.findByAuthProviderId?_eq_none_iff] at unknown ⊢
  intro user member
  rw [← consistent.collation]
  exact unknown user (consistent.grows.users user member)

omit [DecidableEq Key] in
/-- An insertion that is refused has a rival, or a login that does not fit. -/
theorem Consistent.refusable (consistent : Consistent requests start crypto account)
    (ready : Ready requests call account) {login : Utf16}
    (authenticated : (requests call).user.login? = some login)
    (unknown : start.findByAuthProviderId? login = none) {constraint : DbConstraint}
    (refused : (ExecutorService.insert (requests call).filterUser login account.shared).1 =
      .error (.dbUpdate constraint)) : Refusable requests start call := by
  refine ⟨login, authenticated, unknown, ?_⟩
  rcases Nat.lt_or_ge Db.authProviderIdWidth login.length with wide | fits
  · exact .inl wide
  · cases found : account.shared.findByAuthProviderId? login with
    | none =>
        have absent := Table.find?_eq_none_iff.mpr ready.noUser
        rw [ExecutorService.insert_of_unknown fits found absent] at refused
        cases refused
    | some user =>
        obtain ⟨member, same⟩ := Db.findByAuthProviderId?_eq_some found
        rw [consistent.collation] at same
        rcases consistent.users user member with original | ⟨other, id, login⟩
        · rw [Db.findByAuthProviderId?_eq_none_iff] at unknown
          exact absurd same (unknown user original)
        · refine .inr ⟨other, ?_, user.authProviderId, login, same⟩
          intro own
          exact ready.noUser user member (own ▸ id)

theorem meets_insert (call : ι) {login : Utf16}
    (authenticated : (requests call).user.login? = some login)
    (unknown : start.findByAuthProviderId? login = none) :
    (object requests start crypto).discipline.Meets call (AfterFilter requests start call)
      (Program.atomically (ExecutorService.insert (requests call).filterUser login))
      (Ready requests call) := by
  apply Discipline.Meets.access
  intro account consistent ready
  change ∃ after now, _ ∧ _ ∧ _ ∧ Discipline.Meets _ _ _
    (.done (ExecutorService.insert (requests call).filterUser login account.shared).1) _
  rcases ExecutorService.insert_cases (requests call).filterUser login account.shared with
    ⟨constraint, refused⟩ | ⟨fits, absentLogin, absent, inserted⟩
  · have refusable := consistent.refusable ready authenticated unknown
      (congrArg Prod.fst refused)
    refine ⟨account, Refused requests start call (.dbUpdate constraint), ?_,
      ⟨ready.pending, refusable, constraint, rfl⟩, refused_stable call _, ?_⟩
    · exact ⟨(congrArg Prod.snd refused).symm, consistent, .silent account.shared,
        .refl call account⟩
    · rw [refused]
      intro _ _ holds
      exact holds
  · refine ⟨account.silent (ExecutorService.insert (requests call).filterUser login
      account.shared).2, Granted requests call (some ⟨(requests call).newUserId⟩),
      consistent.moves_provision authenticated absentLogin absent rfl
        (congrArg Prod.snd inserted), ⟨ready.pending, ?_⟩, granted_stable call _, ?_⟩
    · have effect : ExecutorService.Effect (requests call).filterUser (requests call).user
          account.shared (.ok (some ⟨(requests call).newUserId⟩)) _ :=
        .created authenticated fits absentLogin absent
      rw [inserted]
      exact actsAs_of_effect effect
    · rw [inserted]
      intro _ _ holds
      exact holds

theorem meets_tryGet (fresh : FreshRequests requests start) (call : ι) :
    (object requests start crypto).discipline.Meets call (AfterFilter requests start call)
      (ExecutorService.tryGet (requests call).filterUser (requests call).user).run
      (Ready requests call) := by
  cases authenticated : (requests call).user.login? with
  | none =>
      rw [ExecutorService.run_tryGet_anonymous _ authenticated]
      intro account _ ready
      have effect : ExecutorService.Effect (requests call).filterUser (requests call).user
          account.shared (.ok none) account.shared := .anonymous authenticated
      exact ⟨ready.pending, actsAs_of_effect effect⟩
  | some login =>
      rw [ExecutorService.run_tryGet_authenticated _ authenticated]
      apply Discipline.Meets.access
      intro account consistent ready
      change ∃ after now, _ ∧ _ ∧ _ ∧ Discipline.Meets _ _ _
        (ExecutorService.afterLookup (requests call).filterUser login
          (account.shared.findByAuthProviderId? login)) _
      cases found : account.shared.findByAuthProviderId? login with
      | some user =>
          have effect : ExecutorService.Effect (requests call).filterUser
              (requests call).user account.shared (.ok (some (toExecutor user)))
              account.shared := .known authenticated found
          refine ⟨account, Granted requests call (some (toExecutor user)),
            consistent.moves_read, ⟨ready.pending, actsAs_of_effect effect⟩,
            granted_stable call _, ?_⟩
          intro _ _ holds
          exact holds
      | none =>
          exact ⟨account, Ready requests call, consistent.moves_read, ready,
            ready_stable fresh call,
            meets_insert call authenticated (consistent.unknown_at_start found)⟩

/-- What is left once the call has taken effect. -/
theorem meets_committed {outcome : ServiceOutcome} :
    (object requests start crypto).discipline.Meets call
      (fun result => (object requests start crypto).Settles call (answerOf (result.map .value)))
      (.done outcome) (Account.Committed call (answerOf (outcome.map .value))) := by
  intro _ _ committed
  exact .inl committed

theorem meets_create (ideal : crypto.Ideal (PresentedBy requests) (KeptBy requests vault))
    {body : CreateSecretRequest}
    (endpoint : (requests call).endpoint = .createSecret (some body))
    (valid : ModelState.isValidCreate body = true)
    (wellFormed : ∀ text ∈ body.secret, text.WellFormed) (executor : Option Executor) :
    (object requests start crypto).discipline.Meets call
      (fun result => (object requests start crypto).Settles call (answerOf (result.map .value)))
      ((ServiceCall.createSecret (requests call).generated { body with executor }).program
        crypto) (Granted requests call executor) := by
  rw [ServiceCall.program_createSecret]
  cases prepared : prepare crypto (requests call).generated { body with executor } with
  | error exception =>
      intro account consistent granted
      have agrees := consistent.agrees_create ideal.toLawful endpoint valid wellFormed
        granted
      refine agrees.settles_error consistent granted.pending ?_
      rw [ServiceCall.run_createSecret, prepared]
  | ok secret =>
      apply Discipline.Meets.access
      intro account consistent granted
      have agrees := consistent.agrees_create ideal.toLawful endpoint valid wellFormed
        granted
      have ran : ((ServiceCall.createSecret (requests call).generated
          { body with executor }).program crypto).run account.shared =
            ServiceCall.insert secret account.shared := by
        rw [ServiceCall.run_createSecret, prepared]
      have moves := agrees.moves consistent ideal granted.pending
        (fun db => (ServiceCall.insert secret db).2) (by rw [ran])
      rw [ran] at moves
      exact ⟨_, _, moves, committed_commit _ _ _ _ _,
        ObjectDiscipline.committed_stable _ _ _, meets_committed⟩

omit [DecidableEq Key] in
theorem dispose_agrees {db : Db} {generated : Generated} {body : RevealSecretRequest}
    {secret : Secret} {response : RevealSecretResponse} (accepted : precheck body = .ok ())
    (named : secret.id = body.guid)
    (opened : openSecret crypto (generated.utcNow 0) body secret = .ok response)
    (row : db.secrets.find? secret.id = some secret ∨ db.secrets.find? secret.id = none) :
    (ServiceCall.dispose secret response db).2 =
        (((ServiceCall.revealAndDisposeSecret generated body).program crypto).run db).2 ∧
      answerOf ((ServiceCall.dispose secret response db).1.map .value) =
        answerOf ((((ServiceCall.revealAndDisposeSecret generated body).program
          crypto).run db).1.map .value) := by
  rw [ServiceCall.run_reveal, accepted, ← named]
  rcases row with found | absent
  · rw [found]
    dsimp only [afterLookup]
    rw [opened]
    exact ⟨rfl, rfl⟩
  · rw [absent, dispose_of_absent absent]
    exact ⟨rfl, rfl⟩

theorem meets_dispose (ideal : crypto.Ideal (PresentedBy requests) (KeptBy requests vault))
    {body : RevealSecretRequest} {secret : Secret} {response : RevealSecretResponse}
    (endpoint : (requests call).endpoint = .revealSecret (some body))
    (valid : ModelState.isValidReveal body = true) (accepted : precheck body = .ok ())
    (named : secret.id = body.guid)
    (opened : openSecret crypto ((requests call).generated.utcNow 0) body secret =
      .ok response) :
    (object requests start crypto).discipline.Meets call
      (fun result => (object requests start crypto).Settles call (answerOf (result.map .value)))
      (Program.atomically (ServiceCall.dispose secret response))
      (AboutToDispose requests start call secret) := by
  apply Discipline.Meets.access
  intro account consistent disposing
  have agrees := consistent.agrees_reveal ideal.toLawful endpoint valid
  obtain ⟨performed, answer⟩ := dispose_agrees accepted named opened disposing.row
  have moves := agrees.moves consistent ideal disposing.pending
    (fun db => (ServiceCall.dispose secret response db).2) performed
  rw [← answer] at moves
  exact ⟨_, _, moves, committed_commit _ _ _ _ _, ObjectDiscipline.committed_stable _ _ _,
    meets_committed⟩

theorem meets_reveal (fresh : FreshRequests requests start)
    (ideal : crypto.Ideal (PresentedBy requests) (KeptBy requests vault))
    {body : RevealSecretRequest}
    (endpoint : (requests call).endpoint = .revealSecret (some body))
    (valid : ModelState.isValidReveal body = true) :
    (object requests start crypto).discipline.Meets call
      (fun result => (object requests start crypto).Settles call (answerOf (result.map .value)))
      ((ServiceCall.revealAndDisposeSecret (requests call).generated body).program crypto)
      (Account.Pending call) := by
  rw [ServiceCall.program_reveal]
  cases accepted : precheck body with
  | error exception =>
      intro account consistent pending
      have agrees := consistent.agrees_reveal ideal.toLawful endpoint valid
      refine agrees.settles_error consistent pending ?_
      rw [ServiceCall.run_reveal, accepted]
  | ok _ =>
      apply Discipline.Meets.access
      intro account consistent pending
      change ∃ after now, _ ∧ _ ∧ _ ∧ Discipline.Meets _ _ _
        (afterLookup crypto (requests call).generated body
          (account.shared.secrets.find? body.guid)) _
      have agrees := consistent.agrees_reveal ideal.toLawful endpoint valid
      have ran := ServiceCall.run_reveal crypto (requests call).generated body account.shared
      rw [accepted] at ran
      -- a lookup that settles the outcome is the moment at which the call takes effect
      have settled : ∀ outcome, afterLookup crypto (requests call).generated body
          (account.shared.secrets.find? body.guid) = .done outcome →
          ∃ after now, (object requests start crypto).discipline.Moves call id account after ∧
            now after ∧ (object requests start crypto).discipline.Stable call now ∧
            (object requests start crypto).discipline.Meets call
              (fun result => (object requests start crypto).Settles call
                (answerOf (result.map .value)))
              (.done outcome) now := by
        intro outcome done
        dsimp only at ran
        rw [done, Program.run_done] at ran
        have moves := agrees.moves consistent ideal pending id (by rw [ran]; rfl)
        rw [ran] at moves
        exact ⟨_, _, moves, committed_commit _ _ _ _ _,
          ObjectDiscipline.committed_stable _ _ _, meets_committed⟩
      cases found : account.shared.secrets.find? body.guid with
      | none =>
          rw [found] at settled
          exact settled _ rfl
      | some secret =>
          rw [found] at settled
          have named := Table.key_of_find? found
          dsimp only [afterLookup] at settled ⊢
          cases opened : openSecret crypto ((requests call).generated.utcNow 0) body
              secret with
          | error exception =>
              rw [opened] at settled
              exact settled _ rfl
          | ok response =>
              refine ⟨account, AboutToDispose requests start call secret,
                consistent.moves_read, ⟨pending, ?_, ?_⟩, aboutToDispose_stable fresh call _,
                meets_dispose ideal endpoint valid accepted named opened⟩
              · rw [named]
                exact consistent.known _ (by simp [found])
              · rw [named]
                exact .inl found

theorem Granted.registered {executor : Executor} {login : Utf16}
    (authenticated : (requests call).user.login? = some login)
    (granted : Granted requests call (some executor) account) :
    Registered account.shared login executor := by
  have actsAs := granted.actsAs
  unfold ActsAs at actsAs
  rw [authenticated] at actsAs
  obtain ⟨other, same, registered⟩ := actsAs
  cases executor
  cases other
  cases same
  exact registered

theorem meets_listing {login : Utf16} (executor : Executor)
    (endpoint : (requests call).endpoint = .getSecretsCreatedByUser)
    (authenticated : (requests call).user.login? = some login) :
    (object requests start crypto).discipline.Meets call
      (fun result => (object requests start crypto).Settles call (answerOf (result.map .value)))
      ((ServiceCall.getSecretsCreatedByUser ⟨executor⟩).program crypto)
      (Granted requests call (some executor)) := by
  rw [ServiceCall.program_list]
  split
  next empty =>
    intro account consistent granted
    obtain ⟨user, member, -, id⟩ := granted.registered authenticated
    exact absurd (id.trans empty) (consistent.shows.named user member)
  next =>
    apply Discipline.Meets.access
    intro account consistent granted
    have handled := consistent.shows.list endpoint authenticated
      (granted.registered authenticated)
    rw [consistent.collation] at handled
    refine ⟨_, _, consistent.moves_commit granted.pending rfl (.refl _) rfl
      (fun _ => .inl rfl) consistent.shows consistent.rightly ?_, committed_commit _ _ _ _ _,
      ObjectDiscipline.committed_stable _ _ _, meets_committed⟩
    have step : SharedVault.Step requests start crypto call account.object _ _ := .handled
    rwa [handled] at step

omit [DecidableEq Key] in
theorem run_getSecretsCreatedByUser (crypto : Crypto Key) (newUser : NewUser)
    (user : ClaimsPrincipal) :
    (SecretsController.getSecretsCreatedByUser crypto newUser user).run =
      (ExecutorService.tryGet newUser user).run >>= fun
        | .ok none => .done (.error BaseController.notAuthenticated)
        | .ok (some executor) => (ServiceCall.getSecretsCreatedByUser ⟨executor⟩).program crypto
        | .error exception => .done (.error exception) := by
  unfold SecretsController.getSecretsCreatedByUser
    BaseController.createBaseAuthenticatedRequest
  rw [ExceptT.run_bind, ExceptT.run_bind, bind_assoc]
  congr 1
  funext outcome
  cases outcome with
  | error exception => rfl
  | ok executor => cases executor <;> rfl

theorem meets_get (executor : Option Executor)
    (endpoint : (requests call).endpoint = .getSecretsCreatedByUser) :
    (object requests start crypto).discipline.Meets call
      (fun result => (object requests start crypto).Settles call (answerOf (result.map .value)))
      (SecretsController.getSecretsCreatedByUser crypto (requests call).controllerUser
        (requests call).user).run (Granted requests call executor) := by
  rw [run_getSecretsCreatedByUser]
  cases authenticated : (requests call).user.login? with
  | none =>
      rw [ExecutorService.run_tryGet_anonymous _ authenticated]
      intro account consistent granted
      refine .inr ⟨granted.pending, ?_⟩
      have step : SharedVault.Step requests start crypto call account.object _ _ := .handled
      unfold SharedVault.handle SharedVault.list ClaimsPrincipal.sortKey? at step
      rw [endpoint, authenticated] at step
      exact step
  | some login =>
      rw [ExecutorService.run_tryGet_authenticated _ authenticated]
      apply Discipline.Meets.access
      intro account consistent granted
      change ∃ after now, _ ∧ _ ∧ _ ∧ Discipline.Meets _ _ _
        (ExecutorService.afterLookup (requests call).controllerUser login
          (account.shared.findByAuthProviderId? login) >>= _) _
      cases found : account.shared.findByAuthProviderId? login with
      | none =>
          have actsAs := granted.actsAs
          unfold ActsAs at actsAs
          rw [authenticated] at actsAs
          obtain ⟨_, -, user, member, same, -⟩ := actsAs
          exact absurd same (Db.findByAuthProviderId?_eq_none_iff.mp found user member)
      | some user =>
          have effect : ExecutorService.Effect (requests call).controllerUser
              (requests call).user account.shared (.ok (some (toExecutor user)))
              account.shared := .known authenticated found
          exact ⟨account, Granted requests call (some (toExecutor user)),
            consistent.moves_read, ⟨granted.pending, actsAs_of_effect effect⟩,
            granted_stable call _, meets_listing (toExecutor user) endpoint authenticated⟩

end Stages

section Requests

variable {ι Key : Type} [DecidableEq Key] {requests : ι → ApiRequest} {start : Db}
  {crypto : Crypto Key} {call : ι} {vault : SharedVault}

omit [DecidableEq Key] in
theorem program_of_bound (crypto : Crypto Key) {request : ApiRequest}
    {actionArguments : List ActionArgument}
    (bound : request.endpoint.actionArguments = some actionArguments) :
    request.program crypto =
      (ExecutorService.tryGet request.filterUser request.user).run >>= fun
        | .ok executor => (SecretsController.invoke crypto request
            (SetExecutorFilter.setExecutor executor actionArguments)).run
        | .error exception => .done (.error exception) := by
  unfold ApiRequest.program ApiRequest.task
  rw [bound]
  unfold SetExecutorFilter.onActionExecutionAsync
  dsimp only
  rw [ExceptT.run_bind]
  congr 1
  funext outcome
  cases outcome <;> rfl

/-- What the action of a request does, once its arguments are bound. -/
inductive Invoked (crypto : Crypto Key) (request : ApiRequest) (executor : Option Executor) :
    Program Db ApiOutcome → Prop
  | createSecret {body : CreateSecretRequest}
      (endpoint : request.endpoint = .createSecret (some body))
      (valid : ModelState.isValidCreate body = true) :
      Invoked crypto request executor (Except.map ActionResult.value <$>
        (ServiceCall.createSecret request.generated { body with executor }).program crypto)
  | revealSecret {body : RevealSecretRequest}
      (endpoint : request.endpoint = .revealSecret (some body))
      (valid : ModelState.isValidReveal body = true) :
      Invoked crypto request executor (Except.map ActionResult.value <$>
        (ServiceCall.revealAndDisposeSecret request.generated body).program crypto)
  | getSecretsCreatedByUser (endpoint : request.endpoint = .getSecretsCreatedByUser) :
      Invoked crypto request executor (Except.map ActionResult.value <$>
        (SecretsController.getSecretsCreatedByUser crypto request.controllerUser
          request.user).run)

omit [DecidableEq Key] in
theorem invoked (crypto : Crypto Key) {request : ApiRequest}
    {actionArguments : List ActionArgument}
    (bound : request.endpoint.actionArguments = some actionArguments)
    (executor : Option Executor) :
    Invoked crypto request executor (SecretsController.invoke crypto request
      (SetExecutorFilter.setExecutor executor actionArguments)).run := by
  unfold SecretsController.invoke
  cases endpoint : request.endpoint with
  | createSecret body =>
      rw [endpoint] at bound
      obtain ⟨body, rfl, valid, rfl⟩ := Endpoint.createSecret_bound bound
      dsimp only [SetExecutorFilter.setExecutor]
      rw [ExceptT.run_map]
      have reached : Invoked crypto request executor _ := .createSecret endpoint valid
      exact reached
  | revealSecret body =>
      rw [endpoint] at bound
      obtain ⟨body, rfl, valid, rfl⟩ := Endpoint.revealSecret_bound bound
      dsimp only [SetExecutorFilter.setExecutor]
      rw [ExceptT.run_map]
      exact .revealSecret endpoint valid
  | getSecretsCreatedByUser =>
      rw [endpoint] at bound
      cases bound
      dsimp only [SetExecutorFilter.setExecutor]
      rw [ExceptT.run_map]
      exact .getSecretsCreatedByUser endpoint

theorem meets_invoke (fresh : FreshRequests requests start)
    (ideal : crypto.Ideal (PresentedBy requests) (KeptBy requests vault))
    (wellFormed : ∀ body, (requests call).endpoint = .createSecret (some body) →
      ∀ text ∈ body.secret, text.WellFormed) {actionArguments : List ActionArgument}
    (bound : (requests call).endpoint.actionArguments = some actionArguments)
    (executor : Option Executor) :
    (object requests start crypto).discipline.Meets call
      (fun result => (object requests start crypto).Settles call (answerOf result))
      (SecretsController.invoke crypto (requests call)
        (SetExecutorFilter.setExecutor executor actionArguments)).run
      (Granted requests call executor) := by
  have reaches := invoked crypto bound executor
  generalize (SecretsController.invoke crypto (requests call)
    (SetExecutorFilter.setExecutor executor actionArguments)).run = program at reaches ⊢
  cases reaches with
  | @createSecret body endpoint valid =>
      apply Discipline.Meets.map
      exact meets_create ideal endpoint valid (wellFormed body endpoint) executor
  | revealSecret endpoint valid =>
      apply Discipline.Meets.map
      exact (meets_reveal fresh ideal endpoint valid).strengthen
        fun _ _ granted => granted.pending
  | getSecretsCreatedByUser endpoint =>
      apply Discipline.Meets.map
      exact meets_get executor endpoint

theorem meets_request (fresh : FreshRequests requests start)
    (ideal : crypto.Ideal (PresentedBy requests) (KeptBy requests vault))
    (wellFormed : ∀ body, (requests call).endpoint = .createSecret (some body) →
      ∀ text ∈ body.secret, text.WellFormed) :
    (object requests start crypto).discipline.Meets call
      (fun result => (object requests start crypto).Settles call (answerOf result))
      ((requests call).program crypto) (Ready requests call) := by
  cases bound : (requests call).endpoint.actionArguments with
  | none =>
      unfold ApiRequest.program ApiRequest.task
      rw [bound]
      intro account _ ready
      have step : SharedVault.Step requests start crypto call account.object _ _ := .handled
      rw [SharedVault.handle_of_unbound bound] at step
      exact .inr ⟨ready.pending, step⟩
  | some actionArguments =>
      rw [program_of_bound crypto bound]
      apply (meets_tryGet fresh call).bind
      intro outcome
      cases outcome with
      | ok executor => exact meets_invoke fresh ideal wellFormed bound executor
      | error exception =>
          intro account _ refused
          obtain ⟨constraint, rfl⟩ := refused.constraint
          exact .inr ⟨refused.pending, .refused refused.refusable⟩

theorem returning : (object requests start crypto).Returning where
  invariant account call outcome consistent := by
    refine ⟨consistent.grows, consistent.shows, consistent.users, ?_, consistent.rightly⟩
    intro guid present
    refine (consistent.known guid present).mono fun caller member => ?_
    obtain ⟨entry, logged, rfl⟩ := List.mem_map.mp member
    exact List.mem_map_of_mem (List.mem_append_left _ logged)
  interference account call outcome _ :=
    ⟨⟨.refl _, fun _ member => .inl member, fun _ => .inl rfl⟩, .refl call account⟩

def requestOutline (fresh : FreshRequests requests start)
    (ideal : crypto.Ideal (PresentedBy requests) (KeptBy requests vault))
    (wellFormed : ∀ call body, (requests call).endpoint = .createSecret (some body) →
      ∀ text ∈ body.secret, text.WellFormed) :
    Outline (object requests start crypto).discipline
      (fun call => (requests call).program crypto) :=
  ObjectDiscipline.outline returning (ready_stable fresh)
    (fun call => meets_request fresh ideal (wellFormed call))

/-- At every moment of a run there is an account of it, finished or not. -/
theorem requests_explained [DecidableEq ι]
    (fresh : FreshRequests requests start)
    (ideal : crypto.Ideal (PresentedBy requests) (KeptBy requests vault))
    (wellFormed : ∀ call body, (requests call).endpoint = .createSecret (some body) →
      ∀ text ∈ body.secret, text.WellFormed)
    (shows : Shows crypto start vault) {trace : List (Event ι)}
    {config : Config ι Db ApiOutcome}
    (run : Run (fun call => (requests call).program crypto) (.initial start) trace config) :
    ∃ account, ObjectDiscipline.Explained (requestOutline fresh ideal wellFormed) vault
      trace config account := by
  have rightly : ∀ entry ∈ vault.entries.rows,
      OpensRightlyFor requests crypto entry.contents :=
    fun entry member => opensRightlyFor ideal (.inl ⟨entry, member, rfl⟩)
  have invariant : (object requests start crypto).invariant ⟨[], vault, start⟩ :=
    ⟨.refl start, shows, fun _ member => .inl member, fun _ present => .inl present, rightly⟩
  have ready : ∀ call, Ready requests call ⟨[], vault, start⟩ := by
    intro call
    refine ⟨List.not_mem_nil, ?_⟩
    exact Table.find?_eq_none_iff.mp (fresh.users_unused call)
  exact ObjectDiscipline.explained returning (ready_stable fresh) _
    (fun _ _ ready => ready.pending) invariant ready run

end Requests

/-! A creation and a listing of one new caller that overlap. -/

namespace NewCaller

def caller : ClaimsPrincipal := ⟨[⟨.nameIdentifier, Utf16.ofString "auth0|1"⟩]⟩

def body : CreateSecretRequest where
  secret := some (Utf16.ofString "text")
  ttl := some (Utf16.ofString "hour")
  passphrase := some (Utf16.ofString "pass")

def requests (creates : Bool) : ApiRequest where
  user := caller
  endpoint := if creates then .createSecret (some body) else .getSecretsCreatedByUser
  filterUser := ⟨if creates then ⟨1, Guid.one_ne_empty⟩ else ⟨2, Guid.two_ne_empty⟩,
    fun _ => .minValue⟩
  controllerUser := default
  generated := default

def programs (creates : Bool) : Program Db ApiOutcome :=
  (requests creates).program Crypto.byteSum

theorem run : ∃ trace config, Run programs (.initial (emptyDb id)) trace config ∧
    (∀ call rest, config.threads call ≠ .running rest) := by
  have invoked : Run programs (.initial (emptyDb id))
      ([] ++ [.invoke true] ++ [.invoke false]) _ :=
    .snoc (.snoc .nil (.invoke rfl)) (.invoke rfl)
  obtain ⟨_, created⟩ := invoked.finish true rfl
  obtain ⟨trace, listed⟩ := created.finish false rfl
  refine ⟨trace, _, listed, ?_⟩
  intro call rest
  cases call with
  | true => nofun
  | false => nofun

end NewCaller

end SecretServer.Api
