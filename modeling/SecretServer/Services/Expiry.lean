import SecretServer.Services.Guards

namespace SecretServer

open Text

/-- The lifetime that each label names. -/
def TimeToLive.chosenTicks : TimeToLive → Nat
  | .hour => DateTime.ticksPerHour
  | .day => DateTime.ticksPerDay
  | .week => 7 * DateTime.ticksPerDay

theorem TimeToLive.grantedTicks_le_chosenTicks (lifetime : TimeToLive) :
    lifetime.grantedTicks ≤ lifetime.chosenTicks := by
  cases lifetime <;> decide

theorem TimeToLive.grantedTicks_eq_chosenTicks {lifetime : TimeToLive}
    (notWeek : lifetime ≠ .week) : lifetime.grantedTicks = lifetime.chosenTicks := by
  cases lifetime with
  | hour => rfl
  | day => rfl
  | week => exact absurd rfl notWeek

namespace Services

open Data Concurrency Database DataLayer SecretService

/-! How long a secret can be revealed, over any history between its creation and the
reveal. -/

variable {Key : Type} {crypto : Crypto Key}

def Unrevealed (log : List (ServiceCall × ServiceOutcome)) (guid : Guid) : Prop :=
  ∀ generated request response,
    (.revealAndDisposeSecret generated request, .ok (.revealSecret response)) ∈ log →
      request.guid ≠ guid

abbrev historyLog (crypto : Crypto Key) (history : List ServiceCall) (start : Db) :
    List (ServiceCall × ServiceOutcome) :=
  (runAll (fun call : ServiceCall => call.program crypto) history start).1

theorem stored_of_created (lawful : crypto.Lawful) {generated : Generated}
    {request : CreateSecretRequest} {db next : Db} {response : CreateSecretResponse}
    (ran : ((ServiceCall.createSecret generated request).program crypto).run db =
      (.ok (.createSecret response), next)) :
    ∃ contents, Asks request generated contents ∧
      response = toCreateResponse (sealedSecret crypto generated request contents) ∧
      next.secrets.find? response.guid =
        some (sealedSecret crypto generated request contents).materialized := by
  cases ServiceCall.effect_of_run crypto ran with
  | @created _ _ _ secret prepared known absent =>
      obtain ⟨contents, asks⟩ := asks_of_prepare prepared
      rw [prepare_of_asks lawful asks] at prepared
      cases prepared
      exact ⟨contents, asks, rfl, Table.find?_insert_self _ _ absent⟩

theorem find?_step {call : ServiceCall} {db : Db} {row : Secret}
    (found : db.secrets.find? row.id = some row)
    (unrevealed : Unrevealed [(call, ((call.program crypto).run db).1)] row.id) :
    ((call.program crypto).run db).2.secrets.find? row.id = some row := by
  generalize ran : (call.program crypto).run db = result at unrevealed
  obtain ⟨outcome, next⟩ := result
  cases ServiceCall.effect_of_run crypto ran with
  | failed => exact found
  | listed => exact found
  | @created _ _ _ secret prepared known absent =>
      have differs : secret.materialized.id ≠ row.id := by
        intro same
        rw [same, found] at absent
        cases absent
      exact (Table.find?_insert_ne _ _ absent differs).trans found
  | @revealed _ _ request _ _ _ _ _ =>
      have differs : row.id ≠ request.guid :=
        (unrevealed _ request _ List.mem_cons_self).symm
      exact (Table.find?_delete_ne _ differs).trans found

theorem find?_runHistory {history : List ServiceCall} {db : Db} {row : Secret}
    (found : db.secrets.find? row.id = some row)
    (unrevealed : Unrevealed (historyLog crypto history db) row.id) :
    (runHistory crypto history db).secrets.find? row.id = some row := by
  induction history generalizing db with
  | nil => exact found
  | cons call rest induction =>
      apply induction
      · apply find?_step found
        intro generated request response member
        exact unrevealed generated request response
          (List.mem_cons.mpr (.inl (List.mem_singleton.mp member)))
      · intro generated request response member
        exact unrevealed generated request response (List.mem_cons_of_mem _ member)

theorem reveal_unlocked (lawful : crypto.Lawful) {db : Db} {row : Secret}
    {contents : Contents} (generated : Generated) (request : RevealSecretRequest)
    (found : db.secrets.find? request.guid = some row) (holds : Holds crypto row contents)
    (checked : precheck request = .ok ()) {latestTime : DateTime}
    (deadline : contents.lifetime.deadline row.createdAt = .ok latestTime)
    (inTime : (generated.utcNow 0).ticks ≤ latestTime.ticks)
    (unlocks : contents.Unlocks crypto request.passphrase) :
    ((ServiceCall.revealAndDisposeSecret generated request).program crypto).run db =
      (.ok (.revealSecret ⟨Utf8.getString (Utf8.getBytes contents.plaintext)⟩),
        db.withSecrets (db.secrets.delete request.guid)) := by
  obtain ⟨acceptable, _⟩ := precheck_eq_ok_iff.mp checked
  rw [ServiceCall.run_reveal_found crypto checked found,
    openSecret_unlocked lawful holds deadline inTime acceptable unlocks]

theorem reveal_with_right_passphrase (lawful : crypto.Lawful) {db : Db} {row : Secret}
    {contents : Contents} (generated : Generated) (request : RevealSecretRequest)
    (found : db.secrets.find? request.guid = some row)
    (holds : Holds crypto row contents)
    (named : request.guid ≠ Guid.empty)
    (right : request.passphrase = some contents.passphrase)
    (inRange : row.createdAt.ticks + contents.lifetime.grantedTicks ≤
      DateTime.maxTicks) :
    ((generated.utcNow 0).ticks ≤ row.createdAt.ticks + contents.lifetime.grantedTicks →
      ∃ response, (((ServiceCall.revealAndDisposeSecret generated request).program
        crypto).run db).1 = .ok (.revealSecret response)) ∧
      (row.createdAt.ticks + contents.lifetime.grantedTicks <
          (generated.utcNow 0).ticks →
        ∃ latestTime, (((ServiceCall.revealAndDisposeSecret generated request).program
          crypto).run db).1 = .error (expired request.guid row.createdAt latestTime)) := by
  have acceptable : AcceptablePassphrase request.passphrase := right ▸ contents.acceptable
  have accepted : precheck request = .ok () := precheck_eq_ok_iff.mpr ⟨acceptable, named⟩
  have deadline := TimeToLive.deadline_of_le inRange
  refine ⟨?_, ?_⟩
  · intro inTime
    have unlocks := right ▸ contents.unlocks_self crypto
    rw [reveal_unlocked lawful generated request found holds accepted deadline inTime
      unlocks]
    exact ⟨_, rfl⟩
  · intro late
    rw [ServiceCall.run_reveal_found crypto accepted found,
      openSecret_of_expired holds deadline late]
    exact ⟨_, rfl⟩

/-- The outcome of a reveal at `now`, for a secret that is to be revealable until
`deadline` ticks. -/
structure RevealableUntil (deadline : Nat) (now : DateTime) (guid : Guid)
    (outcome : ServiceOutcome) : Prop where
  inTime : now.ticks ≤ deadline → ∃ response, outcome = .ok (.revealSecret response)
  late : deadline < now.ticks →
    ∃ createdAt latestTime, outcome = .error (expired guid createdAt latestTime)

theorem expired_ne_ok {guid : Guid} {reported latestTime : DateTime}
    {response : ServiceResponse} :
    (.error (expired guid reported latestTime) : ServiceOutcome) ≠ .ok response := by
  intro equal
  cases equal

theorem RevealableUntil.chosen_iff {granted chosen : Nat} {now : DateTime} {guid : Guid}
    {outcome : ServiceOutcome} (less : granted ≤ chosen)
    (grants : RevealableUntil granted now guid outcome) :
    RevealableUntil chosen now guid outcome ↔
      ¬ (granted < now.ticks ∧ now.ticks ≤ chosen) := by
  constructor
  · intro chosenFor ⟨afterGranted, beforeChosen⟩
    obtain ⟨reported, latestTime, failed⟩ := grants.late afterGranted
    obtain ⟨response, succeeded⟩ := chosenFor.inTime beforeChosen
    exact expired_ne_ok (failed.symm.trans succeeded)
  · intro outside
    refine ⟨?_, ?_⟩
    · intro inTime
      apply grants.inTime
      by_contra afterGranted
      exact outside ⟨Nat.lt_of_not_le afterGranted, inTime⟩
    · intro late
      exact grants.late (Nat.lt_of_le_of_lt less late)

theorem reveal_follows_chosen_lifetime_iff (lawful : crypto.Lawful) {start created : Db}
    (before between : List ServiceCall) {generated revealing : Generated}
    {request : CreateSecretRequest} {response : CreateSecretResponse}
    (succeeded : ((ServiceCall.createSecret generated request).program crypto).run
      (runHistory crypto before start) = (.ok (.createSecret response), created))
    (unrevealed : Unrevealed (historyLog crypto between created) response.guid)
    {lifetime : TimeToLive} (requested : request.ttl = some lifetime.getStringValue)
    (inRange : response.createdAt.ticks + lifetime.chosenTicks ≤ DateTime.maxTicks) :
    (RevealableUntil (response.createdAt.ticks + lifetime.chosenTicks)
        (revealing.utcNow 0) response.guid
        (((ServiceCall.revealAndDisposeSecret revealing
          ⟨response.guid, request.passphrase⟩).program crypto).run
            (runHistory crypto between created)).1 ↔
      ¬ (lifetime = .week ∧
        response.createdAt.ticks + DateTime.ticksPerHour < (revealing.utcNow 0).ticks ∧
        (revealing.utcNow 0).ticks ≤
          response.createdAt.ticks + 7 * DateTime.ticksPerDay)) ∧
      ∀ entity createdAt updatedAt,
        SecretRepository.createAsync generated.utcNow
            { entity with createdAt := createdAt, updatedAt := updatedAt } =
          SecretRepository.createAsync generated.utcNow entity := by
  obtain ⟨contents, asks, rfl, stored⟩ := stored_of_created lawful succeeded
  obtain rfl : lifetime = contents.lifetime := by
    rw [asks.ttl, Option.some.injEq, TimeToLive.getStringValue_inj] at requested
    exact requested.symm
  have present : created.secrets.find?
      (sealedSecret crypto generated request contents).materialized.id =
        some (sealedSecret crypto generated request contents).materialized := stored
  have found := find?_runHistory present unrevealed
  have granted := Nat.le_trans
    (Nat.add_le_add_left contents.lifetime.grantedTicks_le_chosenTicks _) inRange
  obtain ⟨inTime, late⟩ := reveal_with_right_passphrase lawful revealing
    ⟨_, request.passphrase⟩ found (holds_sealedSecret asks).materialized
    generated.newGuid.nonempty asks.passphrase granted
  have less := Nat.add_le_add_left contents.lifetime.grantedTicks_le_chosenTicks
    (sealedSecret crypto generated request contents).createdAt.ticks
  refine ⟨(RevealableUntil.chosen_iff less
    ⟨inTime, fun after => ⟨_, late after⟩⟩).trans ?_, ?_⟩
  · by_cases week : contents.lifetime = .week
    · rw [week]
      exact not_congr ⟨fun condition => ⟨rfl, condition⟩, fun condition => condition.2⟩
    · rw [TimeToLive.grantedTicks_eq_chosenTicks week]
      refine iff_of_true ?_ fun condition => week condition.1
      intro ⟨after, before⟩
      exact Nat.not_le.mpr after before
  · intro entity createdAt updatedAt
    rw [SecretRepository.createAsync_eq, SecretRepository.createAsync_eq,
      Secret.stamped_preset]

/-! A secret for a week that is created at the first tick and revealed two hours
later. -/

namespace WeekSecret

def twoHoursLater : DateTime := ⟨2 * DateTime.ticksPerHour, .utc, by decide⟩

def revealing : Generated := { (default : Generated) with utcNow := fun _ => twoHoursLater }

end WeekSecret

open WeekSecret in
theorem week_secret_expires_after_two_hours :
    ((ServiceCall.createSecret default request).program Crypto.byteSum).run
        (runHistory Crypto.byteSum [] default) =
        (.ok (.createSecret (toCreateResponse secret)), created) ∧
      twoHoursLater.ticks ≤
        (toCreateResponse secret).createdAt.ticks + TimeToLive.week.chosenTicks ∧
      ∃ latestTime, (((ServiceCall.revealAndDisposeSecret revealing
        ⟨(toCreateResponse secret).guid, request.passphrase⟩).program
          Crypto.byteSum).run (runHistory Crypto.byteSum [] created)).1 =
            .error (expired secret.id secret.materialized.createdAt latestTime) := by
  refine ⟨run_create, by decide, ?_⟩
  have found : created.secrets.find? secret.materialized.id = some secret.materialized :=
    Table.find?_insert_self Table.empty secret.materialized rfl
  exact (reveal_with_right_passphrase Crypto.byteSum_lawful revealing
    ⟨_, request.passphrase⟩ found (holds_sealedSecret asks).materialized (by decide) rfl
    (by decide)).2 (by decide)

open WeekSecret in
theorem reveal_follows_chosen_lifetime_iff_week :
    (RevealableUntil ((toCreateResponse secret).createdAt.ticks +
          TimeToLive.week.chosenTicks) (revealing.utcNow 0) (toCreateResponse secret).guid
        (((ServiceCall.revealAndDisposeSecret revealing
          ⟨(toCreateResponse secret).guid, request.passphrase⟩).program
            Crypto.byteSum).run (runHistory Crypto.byteSum [] created)).1 ↔
      ¬ (TimeToLive.week = .week ∧
        (toCreateResponse secret).createdAt.ticks + DateTime.ticksPerHour <
          (revealing.utcNow 0).ticks ∧
        (revealing.utcNow 0).ticks ≤
          (toCreateResponse secret).createdAt.ticks + 7 * DateTime.ticksPerDay)) ∧
      ∀ entity createdAt updatedAt,
        SecretRepository.createAsync (default : Generated).utcNow
            { entity with createdAt := createdAt, updatedAt := updatedAt } =
          SecretRepository.createAsync (default : Generated).utcNow entity :=
  reveal_follows_chosen_lifetime_iff Crypto.byteSum_lawful [] [] run_create
    (fun _ _ _ member => absurd member List.not_mem_nil) rfl (by decide)

end Services

end SecretServer
