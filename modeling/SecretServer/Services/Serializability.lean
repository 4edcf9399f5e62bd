import SecretServer.Api.Middleware
import SecretServer.Concurrency.Linearization
import SecretServer.Services.ServiceCalls

namespace SecretServer.Services

open Data Concurrency Database SecretService
open Api.ExceptionHandlingMiddleware

/-! Overlapping service calls.  A reveal takes effect at its lookup when that
settles the outcome, and at its delete otherwise. -/

variable {ι Key : Type} (crypto : Crypto Key) (calls : ι → ServiceCall) (start : Db)

def ServiceCall.createdId? : ServiceCall → Option Guid
  | .createSecret generated _ => some generated.newGuid.value
  | .revealAndDisposeSecret _ _ => none
  | .getSecretsCreatedByUser _ => none

/-- The ids that `Guid.NewGuid` gives the calls are new, and no two are equal. -/
structure FreshIds : Prop where
  distinct : ∀ first second guid, (calls first).createdId? = some guid →
    (calls second).createdId? = some guid → first = second
  unused : ∀ call guid, (calls call).createdId? = some guid →
    start.secrets.find? guid = none

abbrev programs (call : ι) : Program Db ServiceOutcome := (calls call).program crypto

def Known (order : List ι) (guid : Guid) : Prop :=
  start.secrets.find? guid ≠ none ∨
    ∃ call ∈ order, (calls call).createdId? = some guid

/-- A reveal that has looked its secret up and is about to delete it. -/
structure Disposing (order : List ι) (state : Db) (call : ι)
    (rest : Program Db ServiceOutcome) (generated : Generated)
    (request : RevealSecretRequest) (secret : Secret)
    (response : RevealSecretResponse) : Prop where
  called : calls call = .revealAndDisposeSecret generated request
  accepted : precheck request = .ok ()
  named : secret.id = request.guid
  opened : openSecret crypto (generated.utcNow 0) request secret = .ok response
  remaining : rest = Program.atomically (ServiceCall.dispose secret response)
  known : Known calls start order request.guid
  row : state.secrets.find? request.guid = some secret ∨
    state.secrets.find? request.guid = none

variable {crypto calls start}

theorem ServiceCall.createdId?_of_prepare {generated : Generated}
    {request : CreateSecretRequest} {secret : Secret}
    (prepared : prepare crypto generated request = .ok secret) :
    (ServiceCall.createSecret generated request).createdId? = some secret.id := by
  obtain ⟨_, rfl⟩ := entity_of_prepare prepared
  rfl

theorem Known.concat {order : List ι} {guid : Guid} {other : ι}
    (known : Known calls start order guid) :
    Known calls start (order ++ [other]) guid := by
  rcases known with original | ⟨call, member, created⟩
  · exact .inl original
  · exact .inr ⟨call, List.mem_append_left _ member, created⟩

theorem FreshIds.ne_of_known (fresh : FreshIds calls start) {order : List ι}
    {guid other : Guid} {call : ι} (known : Known calls start order guid)
    (absent : call ∉ order) (created : (calls call).createdId? = some other) :
    other ≠ guid := by
  intro same
  subst same
  rcases known with original | ⟨earlier, member, same⟩
  · exact original (fresh.unused call other created)
  · exact absent (fresh.distinct earlier call other same created ▸ member)

theorem find?_run_of_known (crypto : Crypto Key) (fresh : FreshIds calls start) {order : List ι}
    {state : Db} {guid : Guid} {call : ι} (known : Known calls start order guid)
    (absent : call ∉ order) :
    ((programs crypto calls call).run state).2.secrets.find? guid =
        state.secrets.find? guid ∨
      ((programs crypto calls call).run state).2.secrets.find? guid = none := by
  generalize ran : (programs crypto calls call).run state = result
  obtain ⟨outcome, next⟩ := result
  have effect := ServiceCall.effect_of_run crypto ran
  generalize called : calls call = service at effect
  cases effect with
  | failed => exact .inl rfl
  | listed => exact .inl rfl
  | @created _ generated request secret prepared _ unused =>
      have differs := fresh.ne_of_known known absent
        (called ▸ ServiceCall.createdId?_of_prepare prepared)
      exact .inl (Table.find?_insert_ne _ secret.materialized unused differs)
  | @revealed _ generated request secret response _ found _ =>
      by_cases same : guid = request.guid
      · exact .inr (same ▸ Table.find?_delete_self _ _)
      · exact .inl (Table.find?_delete_ne _ same)

theorem known_of_run {order : List ι} {state : Db} {call : ι} {guid : Guid}
    (inv : ∀ guid, state.secrets.find? guid ≠ none → Known calls start order guid)
    (present : ((programs crypto calls call).run state).2.secrets.find? guid ≠ none) :
    Known calls start (order ++ [call]) guid := by
  generalize ran : (programs crypto calls call).run state = result at present
  obtain ⟨outcome, next⟩ := result
  have effect := ServiceCall.effect_of_run crypto ran
  generalize called : calls call = service at effect
  cases effect with
  | failed => exact (inv guid present).concat
  | listed => exact (inv guid present).concat
  | @created _ generated request secret prepared _ unused =>
      by_cases same : secret.id = guid
      · have created := ServiceCall.createdId?_of_prepare prepared
        rw [← called, same] at created
        exact .inr ⟨call, List.mem_append_right _ List.mem_cons_self, created⟩
      · have read : (state.secrets.insert secret.materialized unused).find? guid =
            state.secrets.find? guid :=
          Table.find?_insert_ne _ secret.materialized unused same
        exact (inv guid (read ▸ present)).concat
  | @revealed _ generated request secret response _ found _ =>
      by_cases same : guid = request.guid
      · exact absurd (same ▸ Table.find?_delete_self _ _) present
      · have read : (state.secrets.delete request.guid).find? guid =
            state.secrets.find? guid := Table.find?_delete_ne _ same
        exact (inv guid (read ▸ present)).concat

/-- The exception of a reveal that lost the race is shown as that of a reveal that
came too late. -/
theorem invoke_lostRace (guid : Guid) :
    invoke (.error .dbUpdateConcurrency : ServiceOutcome) =
      invoke (.error (notFound guid)) :=
  invoke_error_congr rfl

theorem run_programs_reveal {call : ι} {generated : Generated}
    {request : RevealSecretRequest}
    (called : calls call = .revealAndDisposeSecret generated request)
    (accepted : precheck request = .ok ()) (state : Db) :
    (programs crypto calls call).run state =
      (ServiceCall.afterLookup crypto generated request
        (state.secrets.find? request.guid)).run state := by
  unfold programs
  rw [called, ServiceCall.run_reveal, accepted]

theorem dispose_of_absent {state : Db} {secret : Secret}
    {response : RevealSecretResponse}
    (absent : state.secrets.find? secret.id = none) :
    ServiceCall.dispose secret response state =
      (.error .dbUpdateConcurrency, state) := by
  rw [ServiceCall.dispose, Db.deleteSecret, if_neg (by rw [absent]; simp)]
  rfl

theorem lookup_cases (crypto : Crypto Key) {order : List ι} {state : Db} {call : ι}
    {generated : Generated} {request : RevealSecretRequest}
    (inv : ∀ guid, state.secrets.find? guid ≠ none → Known calls start order guid)
    (called : calls call = .revealAndDisposeSecret generated request)
    (accepted : precheck request = .ok ()) :
    (∃ secret response, Disposing crypto calls start order state call
      (ServiceCall.afterLookup crypto generated request
        (state.secrets.find? request.guid)) generated request secret response) ∨
      ∃ value, ServiceCall.afterLookup crypto generated request
          (state.secrets.find? request.guid) = .done value ∧
        (programs crypto calls call).run state = (value, state) := by
  rw [run_programs_reveal called accepted]
  cases found : state.secrets.find? request.guid with
  | none => exact .inr ⟨_, rfl, rfl⟩
  | some secret =>
      cases opened : openSecret crypto (generated.utcNow 0) request secret with
      | error exception =>
          refine .inr ⟨.error exception, ?_, ?_⟩
          · simp only [ServiceCall.afterLookup, opened]
          · simp only [ServiceCall.afterLookup, opened, Program.run_done]
      | ok response =>
          refine .inl ⟨secret, response, called, accepted, Table.key_of_find? found,
            opened, ?_, inv request.guid (by simp [found]), .inl found⟩
          simp only [ServiceCall.afterLookup, opened]

theorem Disposing.settles {order : List ι} {state : Db} {call : ι}
    {rest : Program Db ServiceOutcome} {generated : Generated}
    {request : RevealSecretRequest} {secret : Secret} {response : RevealSecretResponse}
    (disposing : Disposing crypto calls start order state call rest generated request
      secret response) :
    (ServiceCall.dispose secret response state).2 =
        ((programs crypto calls call).run state).2 ∧
      invoke (ServiceCall.dispose secret response state).1 =
        invoke ((programs crypto calls call).run state).1 := by
  rw [run_programs_reveal disposing.called disposing.accepted]
  rcases disposing.row with found | absent
  · rw [found, ServiceCall.afterLookup, disposing.opened]
    exact ⟨rfl, rfl⟩
  · rw [absent, dispose_of_absent (disposing.named ▸ absent), ServiceCall.afterLookup]
    exact ⟨rfl, invoke_lostRace request.guid⟩

def linearizationPoints (fresh : FreshIds calls start) :
    LinearizationPoints (programs crypto calls) invoke start where
  Inv order state :=
    ∀ guid, state.secrets.find? guid ≠ none → Known calls start order guid
  Pending order state call rest :=
    rest = programs crypto calls call ∨
      ∃ generated request secret response, Disposing crypto calls start order state
        call rest generated request secret response
  inv_start := fun _ present => .inl present
  inv_commit := fun inv _ _ present => known_of_run inv present
  pending_start := fun _ _ => .inl rfl
  pending_access := by
    intro order state call effect next inv absent pending
    rcases pending with started | ⟨generated, request, secret, response, disposing⟩
    · unfold programs at started ⊢
      cases called : calls call with
      | createSecret generated request =>
          rw [called, ServiceCall.program_createSecret] at started
          rw [ServiceCall.program_createSecret]
          cases prepared : prepare crypto generated request with
          | error exception =>
              rw [prepared] at started
              cases started
          | ok secret =>
              rw [prepared] at started
              cases started
              exact .inr ⟨_, rfl, rfl, rfl⟩
      | revealAndDisposeSecret generated request =>
          rw [called, ServiceCall.program_reveal] at started
          cases accepted : precheck request with
          | error exception =>
              rw [accepted] at started
              cases started
          | ok _ =>
              rw [accepted] at started
              cases started
              rcases lookup_cases crypto inv called accepted with
                ⟨secret, response, disposing⟩ | ⟨value, settled, ran⟩
              · exact .inl ⟨rfl, .inr ⟨_, _, secret, response, disposing⟩⟩
              · unfold programs at ran
                rw [called] at ran
                refine .inr ⟨value, settled, ?_, ?_⟩
                · exact (congrArg Prod.snd ran).symm
                · exact congrArg invoke (congrArg Prod.fst ran).symm
      | getSecretsCreatedByUser request =>
          rw [called, ServiceCall.program_list] at started
          rw [ServiceCall.program_list]
          by_cases empty : request.executor.userId = Guid.empty
          · rw [if_pos empty] at started
            cases started
          · rw [if_neg empty] at started ⊢
            cases started
            exact .inr ⟨_, rfl, rfl, rfl⟩
    · have remaining := disposing.remaining
      cases remaining
      obtain ⟨final, same⟩ := disposing.settles
      exact .inr ⟨_, rfl, final, same⟩
  pending_done := by
    intro order state call value inv absent pending
    rcases pending with started | ⟨generated, request, secret, response, disposing⟩
    · rw [← started]
      exact ⟨rfl, rfl⟩
    · cases disposing.remaining
  pending_commit := by
    intro order state call other rest inv _ otherAbsent _ pending
    rcases pending with started | ⟨generated, request, secret, response, disposing⟩
    · exact .inl started
    · refine .inr ⟨generated, request, secret, response, disposing.called,
        disposing.accepted, disposing.named, disposing.opened, disposing.remaining,
        disposing.known.concat, ?_⟩
      rcases find?_run_of_known crypto fresh disposing.known otherAbsent with
        kept | gone
      · rw [kept]
        exact disposing.row
      · exact .inr gone

end SecretServer.Services
