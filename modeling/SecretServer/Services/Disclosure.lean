import SecretServer.Services.SealedSecrets
import SecretServer.Services.Serializability

namespace SecretServer.Services

open Data Concurrency Database SecretService
open Api.ExceptionHandlingMiddleware

/-! The fate of every secret that is ever stored: it stays in the table until one
reveal has returned its text, and then it is gone. -/

section

variable {ι Key : Type} (crypto : Crypto Key) (calls : ι → ServiceCall) (start : Db)

def Creates (call : ServiceCall) (outcome : ServiceOutcome) (secret : Secret) : Prop :=
  ∃ generated request row, call = .createSecret generated request ∧
    prepare crypto generated request = .ok row ∧
    outcome = .ok (.createSecret (toCreateResponse row)) ∧ secret = row.materialized

/-- A reveal that names the secret returns, in time, what its value decrypts to. -/
def Discloses (call : ServiceCall) (outcome : ServiceOutcome) (secret : Secret) :
    Prop :=
  ∃ generated request latestTime plaintext,
    call = .revealAndDisposeSecret generated request ∧ request.guid = secret.id ∧
    getAtTheLatest secret = .ok latestTime ∧
    (generated.utcNow 0).ticks ≤ latestTime.ticks ∧
    EncryptionService.decrypt crypto (some secret.value) request.passphrase =
      .ok plaintext ∧
    outcome = .ok (.revealSecret ⟨plaintext⟩)

/-- The row was in the starting table or was put there by a call that returned. -/
def Stored (returned : ι → ServiceOutcome → Prop) (secret : Secret) : Prop :=
  secret ∈ start.secrets.rows ∨
    ∃ call outcome, returned call outcome ∧ Creates crypto (calls call) outcome secret

def DisclosedBy (returned : ι → ServiceOutcome → Prop) (call : ι)
    (secret : Secret) : Prop :=
  ∃ outcome, returned call outcome ∧ Discloses crypto (calls call) outcome secret

structure History (returned : ι → ServiceOutcome → Prop) (state : Db) : Prop where
  rows : ∀ secret, secret ∈ state.secrets.rows ↔
    Stored crypto calls start returned secret ∧
      ∀ call, ¬ DisclosedBy crypto calls returned call secret
  stored_unique : ∀ first second, Stored crypto calls start returned first →
    Stored crypto calls start returned second → first.id = second.id → first = second
  once : ∀ first second secret, DisclosedBy crypto calls returned first secret →
    DisclosedBy crypto calls returned second secret → first = second
  reveal : ∀ call response, returned call (.ok (.revealSecret response)) →
    ∃ secret, Stored crypto calls start returned secret ∧
      Discloses crypto (calls call) (.ok (.revealSecret response)) secret

def LoggedIn (log : List (ι × ServiceOutcome)) (call : ι) (outcome : ServiceOutcome) :
    Prop :=
  (call, outcome) ∈ log

variable {crypto calls start}

theorem Creates.createdId? {call : ServiceCall} {outcome : ServiceOutcome}
    {secret : Secret} (creates : Creates crypto call outcome secret) :
    call.createdId? = some secret.id := by
  obtain ⟨generated, request, row, rfl, prepared, _, rfl⟩ := creates
  rw [ServiceCall.createdId?_of_prepare prepared, Secret.id_materialized]

theorem creates_iff {call : ServiceCall} {generated : Generated}
    {request : CreateSecretRequest} {row secret : Secret}
    (called : call = .createSecret generated request)
    (prepared : prepare crypto generated request = .ok row) :
    Creates crypto call (.ok (.createSecret (toCreateResponse row))) secret ↔
      secret = row.materialized := by
  constructor
  · intro creates
    obtain ⟨_, _, _, calledHere, preparedHere, _, rfl⟩ := creates
    rw [called] at calledHere
    cases calledHere
    rw [prepared] at preparedHere
    cases preparedHere
    rfl
  · intro same
    subst same
    exact ⟨generated, request, row, called, prepared, rfl, rfl⟩

theorem Discloses.named {call : ServiceCall} {outcome : ServiceOutcome} {secret : Secret}
    {generated : Generated} {request : RevealSecretRequest}
    (discloses : Discloses crypto call outcome secret)
    (called : call = .revealAndDisposeSecret generated request) :
    request.guid = secret.id := by
  obtain ⟨_, _, _, _, calledHere, named, _⟩ := discloses
  rw [called] at calledHere
  cases calledHere
  exact named

/-- Whoever discloses a row of some id has found a stored one of that id. -/
theorem History.exists_stored {returned : ι → ServiceOutcome → Prop} {state : Db}
    (history : History crypto calls start returned state) {call : ι} {secret : Secret}
    (disclosed : DisclosedBy crypto calls returned call secret) :
    ∃ found, Stored crypto calls start returned found ∧ found.id = secret.id ∧
      DisclosedBy crypto calls returned call found := by
  obtain ⟨_, logged, _, _, _, _, called, named, _, _, _, rfl⟩ := disclosed
  obtain ⟨found, stored, discloses⟩ := history.reveal call _ logged
  exact ⟨found, stored, (discloses.named called).symm.trans named, _, logged, discloses⟩

theorem Stored.known {log : List (ι × ServiceOutcome)} {secret : Secret}
    (stored : Stored crypto calls start (LoggedIn log) secret) :
    Known calls start (log.map Prod.fst) secret.id := by
  rcases stored with original | ⟨call, outcome, logged, creates⟩
  · exact .inl (by simp [Table.find?_of_mem original])
  · exact .inr ⟨call, List.mem_map_of_mem logged, creates.createdId?⟩

theorem loggedIn_concat {log : List (ι × ServiceOutcome)} {call other : ι}
    {outcome result : ServiceOutcome} :
    LoggedIn (log ++ [(other, result)]) call outcome ↔
      LoggedIn log call outcome ∨ (call = other ∧ outcome = result) := by
  simp [LoggedIn]

section Concat

variable {log : List (ι × ServiceOutcome)} {other : ι} {result : ServiceOutcome}

theorem stored_concat_iff {secret : Secret} :
    Stored crypto calls start (LoggedIn (log ++ [(other, result)])) secret ↔
      Stored crypto calls start (LoggedIn log) secret ∨
        Creates crypto (calls other) result secret := by
  constructor
  · intro stored
    rcases stored with original | ⟨call, outcome, logged, creates⟩
    · exact .inl (.inl original)
    · rcases loggedIn_concat.mp logged with earlier | ⟨rfl, rfl⟩
      · exact .inl (.inr ⟨call, outcome, earlier, creates⟩)
      · exact .inr creates
  · intro stored
    rcases stored with (original | ⟨call, outcome, logged, creates⟩) | creates
    · exact .inl original
    · exact .inr ⟨call, outcome, loggedIn_concat.mpr (.inl logged), creates⟩
    · exact .inr ⟨other, result, loggedIn_concat.mpr (.inr ⟨rfl, rfl⟩), creates⟩

theorem disclosedBy_concat_iff {call : ι} {secret : Secret} :
    DisclosedBy crypto calls (LoggedIn (log ++ [(other, result)])) call secret ↔
      DisclosedBy crypto calls (LoggedIn log) call secret ∨
        (call = other ∧ Discloses crypto (calls other) result secret) := by
  constructor
  · intro disclosed
    obtain ⟨outcome, logged, discloses⟩ := disclosed
    rcases loggedIn_concat.mp logged with earlier | ⟨rfl, rfl⟩
    · exact .inl ⟨outcome, earlier, discloses⟩
    · exact .inr ⟨rfl, discloses⟩
  · intro disclosed
    rcases disclosed with ⟨outcome, logged, discloses⟩ | ⟨rfl, discloses⟩
    · exact ⟨outcome, loggedIn_concat.mpr (.inl logged), discloses⟩
    · exact ⟨result, loggedIn_concat.mpr (.inr ⟨rfl, rfl⟩), discloses⟩

theorem stored_concat_of_not_creates
    (createsNothing : ∀ secret, ¬ Creates crypto (calls other) result secret)
    (secret : Secret) :
    Stored crypto calls start (LoggedIn (log ++ [(other, result)])) secret ↔
      Stored crypto calls start (LoggedIn log) secret :=
  stored_concat_iff.trans (or_iff_left (createsNothing secret))

theorem disclosedBy_concat_of_not_reveals
    (noReveal : ∀ response, result ≠ .ok (.revealSecret response)) (call : ι)
    (secret : Secret) :
    DisclosedBy crypto calls (LoggedIn (log ++ [(other, result)])) call secret ↔
      DisclosedBy crypto calls (LoggedIn log) call secret := by
  refine disclosedBy_concat_iff.trans (or_iff_left ?_)
  intro ⟨_, discloses⟩
  obtain ⟨_, _, _, _, _, _, _, _, _, returned⟩ := discloses
  exact noReveal _ returned

variable {state : Db}

theorem History.quiet (history : History crypto calls start (LoggedIn log) state)
    (createsNothing : ∀ secret, ¬ Creates crypto (calls other) result secret)
    (noReveal : ∀ response, result ≠ .ok (.revealSecret response)) :
    History crypto calls start (LoggedIn (log ++ [(other, result)])) state := by
  have stored : ∀ secret,
      Stored crypto calls start (LoggedIn (log ++ [(other, result)])) secret ↔
        Stored crypto calls start (LoggedIn log) secret :=
    stored_concat_of_not_creates createsNothing
  have disclosed : ∀ call secret,
      DisclosedBy crypto calls (LoggedIn (log ++ [(other, result)])) call secret ↔
        DisclosedBy crypto calls (LoggedIn log) call secret :=
    disclosedBy_concat_of_not_reveals noReveal
  refine ⟨?_, ?_, ?_, ?_⟩
  · intro secret
    simp only [stored, disclosed]
    exact history.rows secret
  · intro first second firstStored secondStored
    exact history.stored_unique first second ((stored first).mp firstStored)
      ((stored second).mp secondStored)
  · intro first second secret byFirst bySecond
    exact history.once first second secret ((disclosed first secret).mp byFirst)
      ((disclosed second secret).mp bySecond)
  · intro call response logged
    rcases loggedIn_concat.mp logged with earlier | ⟨_, now⟩
    · obtain ⟨secret, present, discloses⟩ := history.reveal call response earlier
      exact ⟨secret, (stored secret).mpr present, discloses⟩
    · exact absurd now.symm (noReveal response)

theorem History.created (fresh : FreshIds calls start)
    (history : History crypto calls start (LoggedIn log) state)
    (absent : other ∉ log.map Prod.fst) {generated : Generated}
    {request : CreateSecretRequest} {row : Secret}
    (called : calls other = .createSecret generated request)
    (prepared : prepare crypto generated request = .ok row)
    (unused : state.secrets.find? row.materialized.id = none) :
    History crypto calls start
      (LoggedIn (log ++ [(other, .ok (.createSecret (toCreateResponse row)))]))
      (state.withSecrets (state.secrets.insert row.materialized unused)) := by
  have creates : ∀ secret, Creates crypto (calls other)
      (.ok (.createSecret (toCreateResponse row))) secret ↔ secret = row.materialized :=
    fun secret => creates_iff called prepared
  have disclosed : ∀ call secret, DisclosedBy crypto calls
      (LoggedIn (log ++ [(other, .ok (.createSecret (toCreateResponse row)))]))
        call secret ↔ DisclosedBy crypto calls (LoggedIn log) call secret :=
    disclosedBy_concat_of_not_reveals (by simp)
  have createdId : (calls other).createdId? = some row.id :=
    called ▸ ServiceCall.createdId?_of_prepare prepared
  have newId : ∀ secret, Stored crypto calls start (LoggedIn log) secret →
      row.id ≠ secret.id :=
    fun secret stored => fresh.ne_of_known stored.known absent createdId
  refine ⟨?_, ?_, ?_, ?_⟩
  · intro secret
    simp only [disclosed, stored_concat_iff, creates, Db.secrets_withSecrets,
      Table.mem_insert, history.rows secret]
    constructor
    · intro present
      rcases present with ⟨stored, kept⟩ | rfl
      · exact ⟨.inl stored, kept⟩
      · refine ⟨.inr rfl, ?_⟩
        intro call disclosed
        obtain ⟨older, stored, same, _⟩ := history.exists_stored disclosed
        exact newId older stored same.symm
    · intro present
      obtain ⟨stored | rfl, kept⟩ := present
      · exact .inl ⟨stored, kept⟩
      · exact .inr rfl
  · intro first second firstStored secondStored same
    rcases stored_concat_iff.mp firstStored with firstOld | firstNew
    · rcases stored_concat_iff.mp secondStored with secondOld | secondNew
      · exact history.stored_unique first second firstOld secondOld same
      · obtain rfl := (creates second).mp secondNew
        exact absurd same.symm (newId first firstOld)
    · obtain rfl := (creates first).mp firstNew
      rcases stored_concat_iff.mp secondStored with secondOld | secondNew
      · exact absurd same (newId second secondOld)
      · exact ((creates second).mp secondNew).symm
  · intro first second secret byFirst bySecond
    exact history.once first second secret ((disclosed first secret).mp byFirst)
      ((disclosed second secret).mp bySecond)
  · intro call response logged
    rcases loggedIn_concat.mp logged with earlier | ⟨_, impossible⟩
    · obtain ⟨secret, stored, discloses⟩ := history.reveal call response earlier
      exact ⟨secret, stored_concat_iff.mpr (.inl stored), discloses⟩
    · cases impossible

theorem History.revealed (history : History crypto calls start (LoggedIn log) state)
    {generated : Generated} {request : RevealSecretRequest} {row : Secret}
    {response : RevealSecretResponse}
    (called : calls other = .revealAndDisposeSecret generated request)
    (found : state.secrets.find? request.guid = some row)
    (opened : openSecret crypto (generated.utcNow 0) request row = .ok response) :
    History crypto calls start
      (LoggedIn (log ++ [(other, .ok (.revealSecret response))]))
      (state.withSecrets (state.secrets.delete request.guid)) := by
  have named : row.id = request.guid := Table.key_of_find? found
  obtain ⟨rowStored, rowKept⟩ := (history.rows row).mp (Table.mem_of_find? found)
  have stored : ∀ secret, Stored crypto calls start
      (LoggedIn (log ++ [(other, .ok (.revealSecret response))])) secret ↔
        Stored crypto calls start (LoggedIn log) secret := by
    refine stored_concat_of_not_creates ?_
    intro secret creates
    obtain ⟨_, _, _, _, _, impossible, _⟩ := creates
    cases impossible
  obtain ⟨latestTime, deadline, inTime, decrypted⟩ := decrypt_of_openSecret opened
  have rowDisclosed : Discloses crypto (calls other) (.ok (.revealSecret response)) row :=
    ⟨generated, request, latestTime, response.password, called, named.symm, deadline,
      inTime, decrypted, rfl⟩
  -- among the stored secrets, this call discloses the row it found and no other
  have onlyRow : ∀ secret, Stored crypto calls start (LoggedIn log) secret →
      secret.id = request.guid → secret = row := by
    intro secret present same
    exact history.stored_unique secret row present rowStored (same.trans named.symm)
  have discloses : ∀ secret,
      Discloses crypto (calls other) (.ok (.revealSecret response)) secret →
        secret.id = request.guid :=
    fun secret discloses => (discloses.named called).symm
  refine ⟨?_, ?_, ?_, ?_⟩
  · intro secret
    simp only [stored, disclosedBy_concat_iff, Db.secrets_withSecrets, Table.mem_delete,
      history.rows secret]
    constructor
    · intro left
      obtain ⟨⟨present, kept⟩, differs⟩ := left
      refine ⟨present, ?_⟩
      intro call disclosed
      rcases disclosed with earlier | ⟨_, now⟩
      · exact kept call earlier
      · exact differs (discloses secret now)
    · intro left
      obtain ⟨present, kept⟩ := left
      refine ⟨⟨present, fun call earlier => kept call (.inl earlier)⟩, ?_⟩
      intro same
      obtain rfl := onlyRow secret present same
      exact kept other (.inr ⟨rfl, rowDisclosed⟩)
  · intro first second firstStored secondStored
    exact history.stored_unique first second ((stored first).mp firstStored)
      ((stored second).mp secondStored)
  · intro first second secret byFirst bySecond
    have rowNotBefore : ∀ call,
        DisclosedBy crypto calls (LoggedIn log) call secret →
          ¬ Discloses crypto (calls other) (.ok (.revealSecret response)) secret := by
      intro call disclosed now
      obtain ⟨older, olderStored, same, olderDisclosed⟩ := history.exists_stored disclosed
      obtain rfl := onlyRow older olderStored (same.trans (discloses secret now))
      exact rowKept call olderDisclosed
    rcases disclosedBy_concat_iff.mp byFirst with firstEarlier | ⟨rfl, firstNow⟩
    · rcases disclosedBy_concat_iff.mp bySecond with secondEarlier | ⟨rfl, secondNow⟩
      · exact history.once first second secret firstEarlier secondEarlier
      · exact absurd secondNow (rowNotBefore first firstEarlier)
    · rcases disclosedBy_concat_iff.mp bySecond with secondEarlier | ⟨rfl, _⟩
      · exact absurd firstNow (rowNotBefore second secondEarlier)
      · rfl
  · intro call earlierResponse logged
    rcases loggedIn_concat.mp logged with earlier | ⟨rfl, same⟩
    · obtain ⟨secret, present, earlierDiscloses⟩ :=
        history.reveal call earlierResponse earlier
      exact ⟨secret, (stored secret).mpr present, earlierDiscloses⟩
    · cases same
      exact ⟨row, (stored row).mpr rowStored, rowDisclosed⟩

end Concat

theorem History.step (fresh : FreshIds calls start) {log : List (ι × ServiceOutcome)}
    {state : Db} {call : ι} (absent : call ∉ log.map Prod.fst)
    (history : History crypto calls start (LoggedIn log) state) :
    History crypto calls start
      (LoggedIn (log ++ [(call, ((programs crypto calls call).run state).1)]))
      ((programs crypto calls call).run state).2 := by
  generalize ran : (programs crypto calls call).run state = result
  obtain ⟨outcome, next⟩ := result
  have effect := ServiceCall.effect_of_run crypto ran
  generalize called : calls call = service at effect
  cases effect with
  | failed =>
      refine history.quiet ?_ (by simp)
      intro secret creates
      obtain ⟨_, _, _, _, _, impossible, _⟩ := creates
      cases impossible
  | listed =>
      refine history.quiet ?_ (by simp)
      intro secret creates
      obtain ⟨_, _, _, _, _, impossible, _⟩ := creates
      cases impossible
  | created prepared _ unused =>
      exact history.created fresh absent called prepared unused
  | revealed _ found opened => exact history.revealed called found opened

theorem history_runAll (crypto : Crypto Key) (fresh : FreshIds calls start)
    {order : List ι} (nodup : order.Nodup) :
    History crypto calls start
      (LoggedIn (runAll (programs crypto calls) order start).1)
      (runAll (programs crypto calls) order start).2 := by
  refine runAll_invariant_of_nodup (programs crypto calls)
    (fun log state => History crypto calls start (LoggedIn log) state) ?_
    (fun log state call absent history => history.step fresh absent) nodup
  refine ⟨?_, ?_, ?_, ?_⟩
  · intro secret
    simp [Stored, DisclosedBy, LoggedIn]
  · intro first second firstStored secondStored same
    have firstMember : first ∈ start.secrets.rows := by
      simpa [Stored, LoggedIn] using firstStored
    have secondMember : second ∈ start.secrets.rows := by
      simpa [Stored, LoggedIn] using secondStored
    exact start.secrets.eq_of_mem firstMember secondMember same
  · intro first second secret disclosed
    obtain ⟨_, logged, _⟩ := disclosed
    simp [LoggedIn] at logged
  · intro call response logged
    simp [LoggedIn] at logged

theorem History.reveal_unique {returned : ι → ServiceOutcome → Prop} {state : Db}
    (history : History crypto calls start returned state) {first second : ι}
    {firstGenerated secondGenerated : Generated}
    {firstRequest secondRequest : RevealSecretRequest}
    {firstResponse secondResponse : RevealSecretResponse}
    (firstCalled : calls first = .revealAndDisposeSecret firstGenerated firstRequest)
    (secondCalled : calls second = .revealAndDisposeSecret secondGenerated secondRequest)
    (same : firstRequest.guid = secondRequest.guid)
    (firstReturned : returned first (.ok (.revealSecret firstResponse)))
    (secondReturned : returned second (.ok (.revealSecret secondResponse))) :
    first = second := by
  obtain ⟨firstSecret, firstStored, firstDiscloses⟩ :=
    history.reveal first firstResponse firstReturned
  obtain ⟨secondSecret, secondStored, secondDiscloses⟩ :=
    history.reveal second secondResponse secondReturned
  have firstNamed : firstRequest.guid = firstSecret.id := firstDiscloses.named firstCalled
  have secondNamed : secondRequest.guid = secondSecret.id :=
    secondDiscloses.named secondCalled
  obtain rfl := history.stored_unique firstSecret secondSecret firstStored secondStored
    (firstNamed.symm.trans (same.trans secondNamed))
  exact history.once first second firstSecret ⟨_, firstReturned, firstDiscloses⟩
    ⟨_, secondReturned, secondDiscloses⟩

section Congr

variable {returned other : ι → ServiceOutcome → Prop}

theorem Stored.congr (agree : ∀ call response,
      returned call (.ok response) → other call (.ok response))
    {secret : Secret} (stored : Stored crypto calls start returned secret) :
    Stored crypto calls start other secret := by
  rcases stored with original | ⟨call, outcome, succeeded, creates⟩
  · exact .inl original
  · obtain ⟨_, _, row, _, _, rfl, _⟩ := id creates
    exact .inr ⟨call, _, agree call _ succeeded, creates⟩

theorem DisclosedBy.congr (agree : ∀ call response,
      returned call (.ok response) → other call (.ok response))
    {call : ι} {secret : Secret} (disclosed : DisclosedBy crypto calls returned call secret) :
    DisclosedBy crypto calls other call secret := by
  obtain ⟨outcome, succeeded, discloses⟩ := disclosed
  obtain ⟨_, _, _, _, _, _, _, _, _, rfl⟩ := id discloses
  exact ⟨_, agree call _ succeeded, discloses⟩

theorem History.congr {state : Db} (agree : ∀ call response,
      returned call (.ok response) ↔ other call (.ok response))
    (history : History crypto calls start returned state) :
    History crypto calls start other state := by
  have forth := fun call response => (agree call response).mp
  have back := fun call response => (agree call response).mpr
  refine ⟨?_, ?_, ?_, ?_⟩
  · intro secret
    rw [history.rows secret]
    constructor
    · intro ⟨stored, kept⟩
      exact ⟨stored.congr forth, fun call disclosed => kept call (disclosed.congr back)⟩
    · intro ⟨stored, kept⟩
      exact ⟨stored.congr back, fun call disclosed => kept call (disclosed.congr forth)⟩
  · intro first second firstStored secondStored
    exact history.stored_unique first second (firstStored.congr back)
      (secondStored.congr back)
  · intro first second secret byFirst bySecond
    exact history.once first second secret (byFirst.congr back) (bySecond.congr back)
  · intro call response succeeded
    obtain ⟨secret, stored, discloses⟩ :=
      history.reveal call response (back call _ succeeded)
    exact ⟨secret, stored.congr forth, discloses⟩

end Congr

theorem invoke_eq_success {outcome : ServiceOutcome} {response : ServiceResponse}
    (same : invoke outcome = invoke (.ok response)) : outcome = .ok response := by
  have shown := congrFun same Guid.empty
  cases outcome with
  | ok body =>
      cases shown
      rfl
  | error exception => cases shown

def Returned (config : Config ι Db ServiceOutcome) (call : ι)
    (outcome : ServiceOutcome) : Prop :=
  config.threads call = .returned outcome

theorem returned_ok_iff {trace : List (Event ι)} {config : Config ι Db ServiceOutcome}
    {order : List ι} {call : ι} {response : ServiceResponse}
    (linear : Linearizes (programs crypto calls) invoke start trace config order) :
    LoggedIn (runAll (programs crypto calls) order start).1 call (.ok response) ↔
      Returned config call (.ok response) := by
  constructor
  · intro logged
    obtain ⟨value, returned, same⟩ := linear.outcome call _ logged
    rw [invoke_eq_success same] at returned
    exact returned
  · intro returned
    have ordered : call ∈ order := by
      rw [linear.invoked]
      intro idle
      rw [Returned, idle] at returned
      cases returned
    rw [← map_fst_runAll (programs crypto calls) order start, List.mem_map] at ordered
    obtain ⟨⟨_, outcome⟩, logged, rfl⟩ := ordered
    obtain ⟨value, returnedValue, same⟩ := linear.outcome _ _ logged
    rw [Returned, returnedValue] at returned
    cases returned
    obtain rfl := invoke_eq_success same.symm
    exact logged

theorem overlapping_calls_serialise [DecidableEq ι] (fresh : FreshIds calls start)
    {trace : List (Event ι)} {config : Config ι Db ServiceOutcome}
    (run : Run (programs crypto calls) (.initial start) trace config)
    (complete : ∀ call rest, config.threads call ≠ .running rest) :
    (∃ order, Linearizes (programs crypto calls) invoke start trace config order) ∧
      (∀ first second firstGenerated secondGenerated firstRequest secondRequest
        firstResponse secondResponse,
        calls first = .revealAndDisposeSecret firstGenerated firstRequest →
        calls second = .revealAndDisposeSecret secondGenerated secondRequest →
        firstRequest.guid = secondRequest.guid →
        Returned config first (.ok (.revealSecret firstResponse)) →
        Returned config second (.ok (.revealSecret secondResponse)) →
        first = second) ∧
      (∀ secret, Stored crypto calls start (Returned config) secret →
        (secret ∉ config.shared.secrets.rows ↔
          ∃ call, DisclosedBy crypto calls (Returned config) call secret)) := by
  obtain ⟨order, linear⟩ := (linearizationPoints fresh).linearizes run complete
  have sequential := history_runAll crypto fresh linear.nodup
  rw [linear.final] at sequential
  have history : History crypto calls start (Returned config) config.shared :=
    sequential.congr fun _ _ => returned_ok_iff linear
  refine ⟨⟨order, linear⟩, ?_, ?_⟩
  · intro first second _ _ _ _ _ _ firstCalled secondCalled same
    exact history.reveal_unique firstCalled secondCalled same
  · intro secret stored
    rw [history.rows secret]
    constructor
    · intro removed
      by_contra kept
      exact removed ⟨stored, fun call disclosed => kept ⟨call, disclosed⟩⟩
    · intro ⟨call, disclosed⟩ present
      exact present.2 call disclosed

end

/-! Two reveals of one secret that both look it up before either deletes it. -/

namespace LostRace

open Text

def guid : Guid := 1

def contents : Contents where
  plaintext := Utf16.ofString "text"
  passphrase := Utf16.ofString "pass"
  lifetime := .hour
  salt := Vector.replicate _ 1
  nonce := Vector.replicate _ 2
  plaintext_ne_nil := text_ne_nil
  acceptable := pass_acceptable

def secret : Secret where
  id := guid
  userId := none
  value := EncryptionService.envelope Crypto.byteSum contents.plaintext
    contents.passphrase contents.salt contents.nonce
  ttl := some TimeToLive.hour.getStringValue

def start : Db where
  collation := id
  users := .empty
  secrets := Table.empty.insert secret rfl

def request : RevealSecretRequest := ⟨guid, some contents.passphrase⟩

def calls (_ : Bool) : ServiceCall := .revealAndDisposeSecret default request

def response : RevealSecretResponse :=
  ⟨Utf8.getString (Utf8.getBytes contents.plaintext)⟩

theorem fresh : FreshIds calls start := ⟨by simp [calls, ServiceCall.createdId?],
  by simp [calls, ServiceCall.createdId?]⟩

theorem accepted : precheck request = .ok () :=
  precheck_eq_ok_iff.mpr ⟨contents.acceptable, by decide⟩

theorem program_eq (call : Bool) :
    programs Crypto.byteSum calls call = .access id fun db =>
      ServiceCall.afterLookup Crypto.byteSum default request
        (db.secrets.find? request.guid) := by
  unfold programs calls
  rw [ServiceCall.program_reveal, accepted]

theorem afterLookup_eq :
    ServiceCall.afterLookup Crypto.byteSum default request
        (start.secrets.find? request.guid) =
      Program.atomically (ServiceCall.dispose secret response) := by
  have found : start.secrets.find? request.guid = some secret :=
    Table.find?_insert_self Table.empty secret rfl
  have inRange : secret.createdAt.ticks + contents.lifetime.grantedTicks ≤
      DateTime.maxTicks := by decide
  have opened : openSecret Crypto.byteSum ((default : Generated).utcNow 0) request secret =
      .ok response :=
    openSecret_unlocked Crypto.byteSum_lawful ⟨rfl, rfl⟩
      (TimeToLive.deadline_of_le inRange) (Nat.zero_le _) contents.acceptable
      (contents.unlocks_self _)
  rw [found, ServiceCall.afterLookup, opened]

theorem run : ∃ trace config,
    Run (programs Crypto.byteSum calls) (.initial start) trace config ∧
      ∀ call rest, config.threads call ≠ .running rest := by
  have looksUp := fun call => congrArg Thread.running (program_eq call)
  have disposes := congrArg Thread.running afterLookup_eq
  refine ⟨[] ++ [.invoke true] ++ [.invoke false] ++ [.access true] ++ [.access false] ++
    [.access true] ++ [.access false] ++ [.respond true] ++ [.respond false], _,
    .snoc (.snoc (.snoc (.snoc (.snoc (.snoc (.snoc (.snoc .nil (.invoke rfl))
      (.invoke rfl)) (.access (looksUp true))) (.access (looksUp false)))
      (.access disposes)) (.access disposes)) (.respond rfl)) (.respond rfl), ?_⟩
  intro call rest
  cases call with
  | true => nofun
  | false => nofun

end LostRace

theorem overlapping_calls_serialise_lostRace :
    ∃ trace config, Run (programs Crypto.byteSum LostRace.calls)
        (.initial LostRace.start) trace config ∧
      (∃ order, Linearizes (programs Crypto.byteSum LostRace.calls) invoke
        LostRace.start trace config order) ∧
      (∀ secret, Stored Crypto.byteSum LostRace.calls LostRace.start (Returned config)
          secret →
        (secret ∉ config.shared.secrets.rows ↔
          ∃ call, DisclosedBy Crypto.byteSum LostRace.calls (Returned config) call
            secret)) := by
  obtain ⟨trace, config, run, complete⟩ := LostRace.run
  obtain ⟨linear, _, removed⟩ := overlapping_calls_serialise LostRace.fresh run complete
  exact ⟨trace, config, run, linear, removed⟩

end SecretServer.Services
