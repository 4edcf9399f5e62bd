import SecretServer.Api.Listings
import SecretServer.Api.Json

namespace SecretServer.Api

open Text Data Concurrency Database Services SecretService

/-! The creation time of a secret, as the response to its creation and as later lists
give it. -/

variable {Key : Type} {crypto : Crypto Key}

/-- What a request leaves of the secrets, and what it answers. -/
inductive Leaves (crypto : Crypto Key) (request : ApiRequest)
    (secrets : Table Secret.id) : ApiOutcome → Table Secret.id → Prop
  | failed {exception : Exception} :
      Leaves crypto request secrets (.error exception) secrets
  | invalid : Leaves crypto request secrets (.ok .invalidModelState) secrets
  | created {argument : CreateSecretRequest} {secret : Secret}
      (prepared : prepare crypto request.generated argument = .ok secret)
      (absent : secrets.find? secret.materialized.id = none) :
      Leaves crypto request secrets
        (.ok (.value (.createSecret (toCreateResponse secret))))
        (secrets.insert secret.materialized absent)
  | revealed {body : RevealSecretRequest} {response : RevealSecretResponse}
      (endpoint : request.endpoint = .revealSecret (some body)) :
      Leaves crypto request secrets (.ok (.value (.revealSecret response)))
        (secrets.delete body.guid)
  | listed {entries : List SecretGridResponse}
      (entries_subset : ∀ entry ∈ entries, ∃ secret ∈ secrets.rows,
        entry = toGridResponse secret) :
      Leaves crypto request secrets (.ok (.value (.secretsCreatedByUser entries))) secrets

theorem ActionEffect.leaves {request : ApiRequest} {db : Db} {executor : Option Executor}
    {ran : ApiOutcome × Db} (effect : ActionEffect crypto request executor db ran) :
    Leaves crypto request db.secrets ran.1 ran.2.secrets := by
  cases effect with
  | failed provisions => exact provisions.secrets ▸ .failed
  | created endpoint prepared absent => exact .created prepared absent
  | revealed endpoint => exact .revealed endpoint
  | listed endpoint provisions =>
      dsimp only
      rw [provisions.secrets]
      refine .listed ?_
      intro entry member
      obtain ⟨secret, owned, rfl⟩ := List.mem_map.mp member
      exact ⟨secret, provisions.secrets ▸ (List.mem_filter.mp owned).1, rfl⟩

theorem leaves (crypto : Crypto Key) (request : ApiRequest) (db : Db) :
    Leaves crypto request db.secrets ((request.program crypto).run db).1
      ((request.program crypto).run db).2.secrets := by
  have handled := handled crypto request db
  generalize (request.program crypto).run db = ran at handled ⊢
  cases handled with
  | unbound => exact .invalid
  | refused bound effect => exact (provisions_of_effect effect).secrets ▸ .failed
  | granted bound effect =>
      rw [← (provisions_of_effect effect).secrets]
      exact (actionEffect crypto bound).leaves

section Histories

variable {request : ApiRequest} {db created : Db} {row : Secret}

theorem stored_of_response {response : CreateSecretResponse}
    (posted : (request.program crypto).run db =
      (.ok (.value (.createSecret response)), created)) :
    response.createdAt = request.generated.utcNow 0 ∧
      ∃ row, created.secrets.find? row.id = some row ∧ row.id = response.guid ∧
        row.createdAt = response.createdAt.materialized := by
  have leaves := leaves crypto request db
  rw [posted] at leaves
  dsimp only at leaves
  generalize created.secrets = secrets at leaves ⊢
  cases leaves with
  | created prepared absent =>
      obtain ⟨_, rfl⟩ := entity_of_prepare prepared
      exact ⟨rfl, _, Table.find?_insert_self db.secrets _ absent, rfl, rfl⟩

theorem find?_request (found : db.secrets.find? row.id = some row)
    (unrevealed : ¬ Reveals row.id (request, ((request.program crypto).run db).1)) :
    ((request.program crypto).run db).2.secrets.find? row.id = some row := by
  have leaves := leaves crypto request db
  generalize (request.program crypto).run db = ran at leaves unrevealed ⊢
  obtain ⟨outcome, next⟩ := ran
  dsimp only at leaves unrevealed ⊢
  generalize next.secrets = secrets at leaves ⊢
  cases leaves with
  | failed => exact found
  | invalid => exact found
  | listed => exact found
  | @created _ secret _ absent =>
      have differs : secret.materialized.id ≠ row.id := by
        intro same
        rw [same, found] at absent
        cases absent
      exact (Table.find?_insert_ne _ _ absent differs).trans found
  | @revealed body response endpoint =>
      have differs : row.id ≠ body.guid := by
        intro same
        exact unrevealed ⟨body, response, endpoint, rfl, same.symm⟩
      exact (Table.find?_delete_ne _ differs).trans found

theorem find?_requests {history : List ApiRequest}
    (found : db.secrets.find? row.id = some row)
    (unrevealed : ∀ entry ∈ (runAll (ApiRequest.program crypto) history db).1,
      ¬ Reveals row.id entry) :
    (runAll (ApiRequest.program crypto) history db).2.secrets.find? row.id =
      some row := by
  induction history generalizing db with
  | nil => exact found
  | cons request rest induction =>
      apply induction
      · exact find?_request found (unrevealed _ List.mem_cons_self)
      · intro entry member
        exact unrevealed entry (List.mem_cons_of_mem _ member)

theorem createdAt_of_listed {entries : List SecretGridResponse}
    {entry : SecretGridResponse} (found : db.secrets.find? row.id = some row)
    (listed : ((request.program crypto).run db).1 =
      .ok (.value (.secretsCreatedByUser entries)))
    (member : entry ∈ entries) (same : entry.guid = row.id) :
    entry.createdAt = row.createdAt := by
  have leaves := leaves crypto request db
  rw [listed] at leaves
  generalize ((request.program crypto).run db).2.secrets = secrets at leaves
  cases leaves with
  | listed entries_subset =>
      obtain ⟨secret, stored, rfl⟩ := entries_subset entry member
      obtain rfl := db.secrets.eq_of_mem stored (Table.mem_of_find? found) same
      rfl

end Histories

/-- The text of the member `createdAt`. -/
def Json.createdAt? (json : Json) : Option Utf16 :=
  (json.member? "createdAt").bind Json.text?

open JsonSerializer in
theorem creation_time_texts_differ (localOffset : Nat → Utf16) {db created : Db}
    {post get : ApiRequest} (between : List ApiRequest) {response : CreateSecretResponse}
    {entries : List SecretGridResponse} {entry : SecretGridResponse}
    (clock : (post.generated.utcNow 0).kind = .utc)
    (posted : (post.program crypto).run db =
      (.ok (.value (.createSecret response)), created))
    (unrevealed : ∀ logged ∈ (runAll (ApiRequest.program crypto) between created).1,
      ¬ Reveals response.guid logged)
    (listed : ((get.program crypto).run
        (runAll (ApiRequest.program crypto) between created).2).1 =
      .ok (.value (.secretsCreatedByUser entries)))
    (member : entry ∈ entries) (same : entry.guid = response.guid) :
    ∃ items reported shown,
      serialize localOffset (.secretsCreatedByUser entries) = .array items ∧
        secretGridResponse localOffset entry ∈ items ∧
        (serialize localOffset (.createSecret response)).createdAt? = some reported ∧
        (secretGridResponse localOffset entry).createdAt? = some shown ∧
        reported = shown ++ Utf16.ofString "Z" ∧ reported ≠ shown := by
  obtain ⟨stamp, row, stored, sameId, createdAt⟩ := stored_of_response posted
  have found := find?_requests stored (sameId ▸ unrevealed)
  have shownAt := createdAt_of_listed found listed member (same.trans sameId.symm)
  have kind : response.createdAt.kind = .utc := stamp ▸ clock
  have texts : writeDateTime localOffset response.createdAt =
      writeDateTime localOffset entry.createdAt ++ Utf16.ofString "Z" := by
    rw [shownAt, createdAt, writeDateTime, writeDateTime, writeKind, kind]
    simp [writeKind, DateTime.materialized]
  refine ⟨_, _, _, rfl, List.mem_map_of_mem member, rfl, rfl, texts, ?_⟩
  rw [texts]
  intro equal
  exact absurd (List.append_right_eq_self.mp equal) (by decide)

/-! A secret that its creator lists right after creating it. -/

namespace ListedAtOnce

def user : ClaimsPrincipal := ⟨[⟨.nameIdentifier, Utf16.ofString "auth0|1"⟩]⟩

/-- 2025-06-08T17:20:00Z -/
def utcNow : DateTime := ⟨638850000000000000, .utc, by decide⟩

def post : ApiRequest where
  user := user
  endpoint := .createSecret (some
    { secret := some (Utf16.ofString "text")
      ttl := some (Utf16.ofString "hour")
      passphrase := some (Utf16.ofString "pass") })
  filterUser := default
  controllerUser := default
  generated := { (default : Generated) with utcNow := fun _ => utcNow }

def get : ApiRequest := { post with endpoint := .getSecretsCreatedByUser }

def created : Db :=
  ((post.program Crypto.byteSum).run (emptyDb id)).2

def response : CreateSecretResponse := ⟨(default : Generated).newGuid.value, utcNow⟩

def entry : SecretGridResponse :=
  ⟨response.guid, some (Utf16.ofString "hour"), utcNow.materialized⟩

theorem posted : (post.program Crypto.byteSum).run (emptyDb id) =
    (.ok (.value (.createSecret response)), created) :=
  Prod.ext (by decide +kernel) rfl

theorem listed : ((get.program Crypto.byteSum).run created).1 =
    .ok (.value (.secretsCreatedByUser [entry])) := by
  decide +kernel

end ListedAtOnce

open ListedAtOnce JsonSerializer in
theorem listed_creation_time_lacks_zone :
    (post.program Crypto.byteSum).run (emptyDb id) =
        (.ok (.value (.createSecret response)), created) ∧
      ((get.program Crypto.byteSum).run created).1 =
        .ok (.value (.secretsCreatedByUser [entry])) ∧
      (serialize (fun _ => []) (.createSecret response)).createdAt? =
        some (Utf16.ofString "2025-06-08T17:20:00Z") ∧
      (secretGridResponse (fun _ => []) entry).createdAt? =
        some (Utf16.ofString "2025-06-08T17:20:00") :=
  ⟨posted, listed, by decide +kernel, by decide +kernel⟩

open ListedAtOnce JsonSerializer in
theorem creation_time_texts_differ_listed_at_once :
    ∃ items reported shown,
      serialize (fun _ => []) (.secretsCreatedByUser [entry]) = .array items ∧
        secretGridResponse (fun _ => []) entry ∈ items ∧
        (serialize (fun _ => []) (.createSecret response)).createdAt? = some reported ∧
        (secretGridResponse (fun _ => []) entry).createdAt? = some shown ∧
        reported = shown ++ Utf16.ofString "Z" ∧ reported ≠ shown :=
  creation_time_texts_differ (fun _ => []) [] rfl posted
    (fun _ member => absurd member List.not_mem_nil) listed List.mem_cons_self rfl

end SecretServer.Api
