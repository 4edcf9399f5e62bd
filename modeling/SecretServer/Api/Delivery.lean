import SecretServer.Api.ConcurrentRequests

namespace SecretServer.Api

open Text Data Concurrency Database Services SecretService

/-! A secret that is asked for in time with a passphrase that opens it is delivered to
one request, whatever requests overlap. -/

section Vaults

variable {Key : Type} [DecidableEq Key] {crypto : Crypto Key} {vault : Vault}
  {generated : Generated} {body : RevealSecretRequest} {entry : VaultEntry} {guid : Guid}

theorem find?_vault_create (request : CreateSecretRequest) (vault : Vault)
    (differs : generated.newGuid.value ≠ guid) :
    (Vault.create generated request vault).2.find? guid = vault.find? guid := by
  unfold Vault.create
  split
  next contents admissible =>
    dsimp only
    split
    next result inserted =>
      obtain ⟨absent, rfl⟩ := Table.insert?_eq_some_iff.mp inserted
      exact Table.find?_insert_ne _ _ absent differs
    next => rfl
  next =>
    split
    next => rfl
    next => rfl

/-- In time, with a passphrase that opens the entry. -/
structure Opens (crypto : Crypto Key) (entry : VaultEntry) (generated : Generated)
    (body : RevealSecretRequest) : Prop where
  named : body.guid = entry.id
  acceptable : AcceptablePassphrase body.passphrase
  unlocks : entry.contents.Unlocks crypto body.passphrase
  inTime : ∃ latestTime, entry.contents.lifetime.deadline entry.createdAt = .ok latestTime ∧
    (generated.utcNow 0).ticks ≤ latestTime.ticks

theorem Opens.reveal_eq (opens : Opens crypto entry generated body)
    (found : vault.find? entry.id = some entry) :
    Vault.reveal crypto generated body vault =
      (.ok (.revealSecret ⟨entry.contents.plaintext⟩), vault.delete body.guid) := by
  obtain ⟨latestTime, deadline, inTime⟩ := opens.inTime
  unfold Vault.reveal
  rw [if_pos opens.acceptable, opens.named, found]
  dsimp only
  rw [deadline]
  dsimp only
  rw [if_neg (Nat.not_lt.mpr inTime), if_pos opens.unlocks]

omit [DecidableEq Key] in
theorem Opens.valid (opens : Opens crypto entry generated body) :
    ModelState.isValidReveal body = true := by
  obtain ⟨passphrase, presented, _⟩ := opens.acceptable.exists_text
  unfold ModelState.isValidReveal
  rw [presented]
  rfl

end Vaults

def ApiRequest.Reveals (guid : Guid) (request : ApiRequest) : Prop :=
  ∃ body, request.endpoint = .revealSecret (some body) ∧ body.guid = guid

/-- The request fails, or its body does not even reach the filter. -/
def ApiRequest.Denied {ε : Type} (request : ApiRequest)
    (result : Except ε ActionResult) : Prop :=
  (∃ exception, result = .error exception) ∨
    (request.endpoint.actionArguments = none ∧ result = .ok .invalidModelState)

section Requests

variable {ι Key : Type} [DecidableEq Key] {requests : ι → ApiRequest} {start : Db}
  {crypto : Crypto Key} {vault next : SharedVault} {call : ι} {outcome : VaultAnswer}
  {entry : VaultEntry}

abbrev delivered (entry : VaultEntry) : VaultAnswer :=
  .ok (.value (.revealSecret ⟨entry.contents.plaintext⟩))

theorem handle_reveal {collation : Utf16 → Utf16} {request : ApiRequest}
    {body : RevealSecretRequest} (endpoint : request.endpoint = .revealSecret (some body))
    (valid : ModelState.isValidReveal body = true) :
    vault.handle crypto collation request = vault.reveal crypto request.generated body := by
  unfold SharedVault.handle
  rw [endpoint]
  exact if_pos valid

theorem not_reveals {request : ApiRequest} {guid : Guid}
    (endpoint : ∀ body, request.endpoint ≠ .revealSecret (some body)) :
    ¬ request.Reveals guid := by
  intro ⟨body, reveals, _⟩
  exact endpoint body reveals

/-- A step on the vault leaves the entry alone and gives nothing out for it, or it
delivers the entry and removes it. -/
theorem step_entry {guid : Guid} (creates : (requests call).createdId? ≠ some guid)
    (step : SharedVault.Step requests start crypto call vault outcome next) :
    (next.entries.find? guid = vault.entries.find? guid ∧
        ((requests call).Reveals guid → (requests call).Denied outcome)) ∨
      ∃ found, vault.entries.find? guid = some found ∧ (requests call).Reveals guid ∧
        outcome = delivered found ∧ next.entries.find? guid = none := by
  cases step with
  | refused refusable => exact .inl ⟨rfl, fun _ => .inl ⟨_, rfl⟩⟩
  | handled =>
      have handling := vault.handling crypto start.collation (requests call)
      generalize vault.handle crypto start.collation (requests call) = handled at handling ⊢
      cases handling with
      | unbound unbound => exact .inl ⟨rfl, fun _ => .inr ⟨unbound, rfl⟩⟩
      | refused => exact .inl ⟨rfl, fun _ => .inl ⟨_, rfl⟩⟩
      | @created body response entries _ endpoint created =>
          left
          refine ⟨?_, fun reveals => absurd reveals (not_reveals (by simp [endpoint]))⟩
          have differs : (requests call).generated.newGuid.value ≠ guid := by
            intro same
            apply creates
            unfold ApiRequest.createdId?
            rw [endpoint, same]
          have kept := find?_vault_create body vault.entries differs
          rwa [created] at kept
      | @revealed body found endpoint present =>
          by_cases named : body.guid = guid
          · rw [← named]
            exact .inr ⟨found, present, ⟨body, endpoint, rfl⟩, rfl,
              Table.find?_delete_self _ _⟩
          · left
            refine ⟨Table.find?_delete_ne _ (Ne.symm named), ?_⟩
            intro ⟨other, otherEndpoint, otherNamed⟩
            rw [endpoint] at otherEndpoint
            cases otherEndpoint
            exact absurd otherNamed named
      | listed endpoint =>
          exact .inl ⟨rfl, fun reveals =>
            absurd reveals (not_reveals (by simp [endpoint]))⟩

theorem not_denied_delivered {request : ApiRequest} :
    ¬ request.Denied (delivered entry) := by
  intro denied
  rcases denied with ⟨code, failed⟩ | ⟨_, invalid⟩
  · cases failed
  · cases invalid

theorem step_opens {body : RevealSecretRequest}
    (endpoint : (requests call).endpoint = .revealSecret (some body))
    (opens : Opens crypto entry (requests call).generated body)
    (provided : ¬ Refusable requests start call)
    (found : vault.entries.find? entry.id = some entry)
    (step : SharedVault.Step requests start crypto call vault outcome next) :
    outcome = delivered entry := by
  cases step with
  | refused refusable => exact absurd refusable provided
  | handled =>
      rw [handle_reveal endpoint opens.valid]
      unfold SharedVault.reveal
      rw [opens.reveal_eq found]

/-- Nothing was given out for the entry, and the call that opens it has yet to act. -/
structure Waiting (requests : ι → ApiRequest) (entry : VaultEntry) (opener : ι)
    (log : List (ι × VaultAnswer)) (vault : SharedVault) : Prop where
  present : vault.entries.find? entry.id = some entry
  refused : ∀ call answer, (call, answer) ∈ log → (requests call).Reveals entry.id →
    (requests call).Denied answer
  pending : opener ∉ log.map Prod.fst

/-- One call was given the entry, and all others that asked for it were refused. -/
structure Delivered (requests : ι → ApiRequest) (entry : VaultEntry) (winner : ι)
    (log : List (ι × VaultAnswer)) (vault : SharedVault) : Prop where
  absent : vault.entries.find? entry.id = none
  reveals : (requests winner).Reveals entry.id
  delivered : (winner, delivered entry) ∈ log
  refused : ∀ call answer, (call, answer) ∈ log → (requests call).Reveals entry.id →
    call = winner ∨ (requests call).Denied answer

variable {opener : ι} {log : List (ι × VaultAnswer)}

theorem Waiting.step {body : RevealSecretRequest}
    (waiting : Waiting requests entry opener log vault)
    (creates : (requests call).createdId? ≠ some entry.id)
    (endpoint : (requests opener).endpoint = .revealSecret (some body))
    (opens : Opens crypto entry (requests opener).generated body)
    (provided : ¬ Refusable requests start opener)
    (step : SharedVault.Step requests start crypto call vault outcome next) :
    Waiting requests entry opener (log ++ [(call, outcome)]) next ∨
      Delivered requests entry call (log ++ [(call, outcome)]) next := by
  rcases step_entry creates step with ⟨kept, refused⟩ | ⟨found, present, reveals, given, gone⟩
  · left
    have differs : opener ≠ call := by
      intro same
      subst same
      have given := step_opens endpoint opens provided waiting.present step
      exact not_denied_delivered (given ▸ refused ⟨body, endpoint, opens.named⟩)
    refine ⟨kept.trans waiting.present, ?_, ?_⟩
    · intro other answer logged asks
      rcases List.mem_append.mp logged with earlier | now
      · exact waiting.refused other answer earlier asks
      · cases List.mem_singleton.mp now
        exact refused asks
    · rw [List.map_append, List.mem_append, not_or]
      exact ⟨waiting.pending, fun last => differs (List.mem_singleton.mp last)⟩
  · right
    rw [waiting.present] at present
    cases present
    refine ⟨gone, reveals, ?_, ?_⟩
    · rw [given]
      exact List.mem_append_right _ (List.mem_singleton.mpr rfl)
    · intro other answer logged asks
      rcases List.mem_append.mp logged with earlier | now
      · exact .inr (waiting.refused other answer earlier asks)
      · cases List.mem_singleton.mp now
        exact .inl rfl

theorem Delivered.step {winner : ι} (settled : Delivered requests entry winner log vault)
    (creates : (requests call).createdId? ≠ some entry.id)
    (step : SharedVault.Step requests start crypto call vault outcome next) :
    Delivered requests entry winner (log ++ [(call, outcome)]) next := by
  rcases step_entry creates step with ⟨kept, refused⟩ | ⟨found, present, -⟩
  · refine ⟨kept.trans settled.absent, settled.reveals,
      List.mem_append_left _ settled.delivered, ?_⟩
    intro other answer logged asks
    rcases List.mem_append.mp logged with earlier | now
    · exact settled.refused other answer earlier asks
    · cases List.mem_singleton.mp now
      exact .inr (refused asks)
  · rw [settled.absent] at present
    cases present

theorem waiting_or_delivered {body : RevealSecretRequest}
    (creates : ∀ call, (requests call).createdId? ≠ some entry.id)
    (endpoint : (requests opener).endpoint = .revealSecret (some body))
    (opens : Opens crypto entry (requests opener).generated body)
    (provided : ¬ Refusable requests start opener)
    (present : vault.entries.find? entry.id = some entry)
    (replays : Replays (SharedVault.Step requests start crypto) vault log next) :
    Waiting requests entry opener log next ∨
      ∃ winner, Delivered requests entry winner log next := by
  induction replays with
  | nil =>
      left
      exact ⟨present, fun _ _ logged => absurd logged List.not_mem_nil, List.not_mem_nil⟩
  | snoc _ step induction =>
      rcases induction with waiting | ⟨winner, settled⟩
      · rcases waiting.step (creates _) endpoint opens provided step with still | settled
        · exact .inl still
        · exact .inr ⟨_, settled⟩
      · exact .inr ⟨winner, settled.step (creates _) step⟩

theorem answerOf_eq_ok_iff {result : ApiOutcome} {answer : ActionResult} :
    answerOf result = .ok answer ↔ result = .ok answer := by
  cases result with
  | ok given => simp [answerOf, Except.mapError]
  | error exception => simp [answerOf, Except.mapError]

theorem denied_answerOf {request : ApiRequest} {result : ApiOutcome}
    (denied : request.Denied (answerOf result)) : request.Denied result := by
  rcases denied with ⟨code, failed⟩ | ⟨unbound, invalid⟩
  · cases result with
    | ok given => cases failed
    | error exception => exact .inl ⟨exception, rfl⟩
  · exact .inr ⟨unbound, answerOf_eq_ok_iff.mp invalid⟩

/-- One of the requests gets the secret, the others that ask for it are refused, and it
is gone. -/
theorem opened_secret_is_delivered_once [DecidableEq ι]
    (fresh : FreshRequests requests start)
    (ideal : crypto.Ideal (PresentedBy requests) (KeptBy requests vault))
    (wellFormed : ∀ call body, (requests call).endpoint = .createSecret (some body) →
      ∀ text ∈ body.secret, text.WellFormed)
    (shows : Shows crypto start vault)
    (present : vault.entries.find? entry.id = some entry) {body : RevealSecretRequest}
    (endpoint : (requests opener).endpoint = .revealSecret (some body))
    (opens : Opens crypto entry (requests opener).generated body)
    (provided : ¬ Refusable requests start opener) {trace : List (Event ι)}
    {config : Config ι Db ApiOutcome}
    (run : Run (fun call => (requests call).program crypto) (.initial start) trace config)
    (complete : ∀ call rest, config.threads call ≠ .running rest)
    (invoked : config.threads opener ≠ .idle) :
    config.shared.secrets.find? entry.id = none ∧
      ∃ winner, (requests winner).Reveals entry.id ∧
        config.threads winner =
          .returned (.ok (.value (.revealSecret ⟨entry.contents.plaintext⟩))) ∧
        ∀ call result, (requests call).Reveals entry.id →
          config.threads call = .returned result → call = winner ∨
            (requests call).Denied result := by
  have stored : start.secrets.find? entry.id ≠ none := by
    intro absent
    have related := shows.entries.find? Keeps.sameKey entry.id
    rw [absent, present] at related
    cases related
  have creates : ∀ call, (requests call).createdId? ≠ some entry.id := by
    intro call created
    exact stored (fresh.secrets_unused call entry.id created)
  obtain ⟨account, explained⟩ := requests_explained fresh ideal wellFormed shows run
  have implements : Implements (SharedVault.Step requests start crypto) answerOf
      (Shows crypto) vault trace config account.log :=
    explained.implements (fun _ _ ready => ready.pending)
      (fun _ (consistent : Consistent requests start crypto _) => consistent.shows)
      run complete
  obtain ⟨object, replays, finalShows⟩ := implements.final
  rcases waiting_or_delivered creates endpoint opens provided present replays with
    waiting | ⟨winner, settled⟩
  · exact absurd ((implements.invoked opener).mpr invoked) waiting.pending
  · refine ⟨?_, winner, settled.reveals, ?_, ?_⟩
    · have related := finalShows.entries.find? Keeps.sameKey entry.id
      rw [settled.absent] at related
      generalize config.shared.secrets.find? entry.id = found at related ⊢
      cases related
      rfl
    · obtain ⟨result, returned, same⟩ := implements.outcome winner _ settled.delivered
      rw [returned, answerOf_eq_ok_iff.mp same]
    · intro call result asks returned
      have idle : config.threads call ≠ .idle := by
        rw [returned]
        exact nofun
      obtain ⟨⟨caller, answer⟩, logged, rfl⟩ :=
        List.mem_map.mp ((implements.invoked call).mpr idle)
      rcases settled.refused caller answer logged asks with won | denied
      · exact .inl won
      · obtain ⟨other, otherReturned, same⟩ := implements.outcome caller answer logged
        cases returned.symm.trans otherReturned
        exact .inr (denied_answerOf (same ▸ denied))

end Requests

/-! Two requests that both present the right passphrase. -/

namespace TwoReveals

open WeekSecret

def entry : VaultEntry := ⟨secret.id, contents, secret.createdAt⟩

def vault : SharedVault := ⟨Table.empty.insert entry rfl, fun _ => none⟩

def body : RevealSecretRequest := ⟨secret.id, request.passphrase⟩

def requests (first : Bool) : ApiRequest where
  user := ⟨[]⟩
  endpoint := .revealSecret (some body)
  filterUser := if first then default else ⟨⟨2, Guid.two_ne_empty⟩, fun _ => .minValue⟩
  controllerUser := default
  generated := default

def programs (first : Bool) : Program Db ApiOutcome :=
  (requests first).program Crypto.byteSum

theorem fresh : FreshRequests requests created where
  secrets_distinct _ _ _ created := by cases created
  secrets_unused _ _ created := by cases created
  users_distinct first second same := by
    cases first <;> cases second <;> first | rfl | exact absurd same (by decide)
  users_unused _ := rfl

theorem shows : Shows Crypto.byteSum created vault where
  unique user member := by cases member
  named user member := by cases member
  entries := .cons
    { id := rfl
      named := by decide
      holds := (holds_sealedSecret asks).materialized
      createdAt := rfl
      wellFormed := Utf16.wellFormed_ofString _ } .nil
  owned row member := by
    cases List.mem_singleton.mp member
    rfl

theorem opens (first : Bool) :
    Opens Crypto.byteSum entry (requests first).generated body where
  named := rfl
  acceptable := pass_acceptable
  unlocks := contents.unlocks_self _
  inTime := ⟨_, TimeToLive.deadline_of_le (by decide), Nat.zero_le _⟩

theorem provided : ¬ Refusable requests created true := by
  intro ⟨login, authenticated, _⟩
  cases authenticated

theorem run : ∃ trace config, Run programs (.initial created) trace config ∧
    (∀ call rest, config.threads call ≠ .running rest) ∧ config.threads true ≠ .idle := by
  have invoked : Run programs (.initial created) ([] ++ [.invoke true] ++ [.invoke false]) _ :=
    .snoc (.snoc .nil (.invoke rfl)) (.invoke rfl)
  obtain ⟨_, first⟩ := invoked.finish true rfl
  obtain ⟨trace, second⟩ := first.finish false rfl
  refine ⟨trace, _, second, ?_, nofun⟩
  intro call rest
  cases call with
  | true => nofun
  | false => nofun

end TwoReveals

theorem opened_secret_is_delivered_once_twoReveals :
    ∃ trace config, Run TwoReveals.programs (.initial WeekSecret.created) trace config ∧
      config.shared.secrets.find? TwoReveals.entry.id = none ∧
      ∃ winner, config.threads winner = .returned
        (.ok (.value (.revealSecret ⟨TwoReveals.entry.contents.plaintext⟩))) := by
  obtain ⟨trace, config, run, complete, invoked⟩ := TwoReveals.run
  have wellFormed : ∀ call body,
      (TwoReveals.requests call).endpoint = .createSecret (some body) →
        ∀ text ∈ body.secret, text.WellFormed := by
    intro call body creates
    cases creates
  have present : TwoReveals.vault.entries.find? TwoReveals.entry.id = some TwoReveals.entry :=
    Table.find?_insert_self Table.empty TwoReveals.entry rfl
  obtain ⟨gone, winner, -, delivered, -⟩ := opened_secret_is_delivered_once TwoReveals.fresh
    (Crypto.byteSum_ideal _ _) wellFormed TwoReveals.shows present rfl (TwoReveals.opens true)
    TwoReveals.provided run complete invoked
  exact ⟨trace, config, run, gone, winner, delivered⟩

end SecretServer.Api
