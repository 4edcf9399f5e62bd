import SecretServer.Concurrency.RelyGuarantee
import SecretServer.Services.Expiry
import SecretServer.Text.Repair

namespace SecretServer.Services

open Text Data Concurrency Database SecretService EncryptionService

/-! What a reveal gives back of a secret, whichever string was handed in. -/

/-- The text is the plaintext with each unpaired surrogate turned into U+FFFD. -/
structure Repairs (plaintext text : Utf16) : Prop where
  wellFormed : text.WellFormed
  length : text.length = plaintext.length
  units : ∀ position, text[position]? = plaintext[position]?.map fun unit =>
    if plaintext.Unpaired position then Utf16.replacementUnit else unit
  unchanged_iff : text = plaintext ↔ ∀ position, ¬ plaintext.Unpaired position

theorem getString_getBytes_repairs (plaintext : Utf16) :
    Repairs plaintext (Utf8.getString (Utf8.getBytes plaintext)) := by
  rw [Utf8.getString_getBytes, Utf16.encode_scalars]
  exact ⟨plaintext.wellFormed_repair, plaintext.length_repair, plaintext.getElem?_repair,
    plaintext.repair_eq_self_iff⟩

/-- Nothing but the row is stored under its id. -/
def OnlyAs (row : Secret) (db : Db) : Prop :=
  ∀ secret, db.secrets.find? row.id = some secret → secret = row

section Calls

variable {Key : Type} {crypto : Crypto Key} {row : Secret} {contents : Contents}

theorem openSecret_text (lawful : crypto.Lawful) (holds : Holds crypto row contents)
    {utcNow : DateTime} {request : RevealSecretRequest} {response : RevealSecretResponse}
    (acceptable : AcceptablePassphrase request.passphrase)
    (rightly : contents.OpensRightly crypto request.passphrase)
    (opened : openSecret crypto utcNow request row = .ok response) :
    response.password = Utf8.getString (Utf8.getBytes contents.plaintext) := by
  by_cases unlocks : contents.Unlocks crypto request.passphrase
  · cases deadline : contents.lifetime.deadline row.createdAt with
    | error exception =>
        rw [openSecret_of_overflow holds deadline] at opened
        cases opened
    | ok latestTime =>
        rcases Nat.lt_or_ge latestTime.ticks utcNow.ticks with late | inTime
        · rw [openSecret_of_expired holds deadline late] at opened
          cases opened
        · rw [openSecret_unlocked lawful holds deadline inTime acceptable
            unlocks] at opened
          cases opened
          rfl
  · have resists := fun passphrase presents => rightly passphrase presents unlocks
    rw [openSecret_refused lawful holds acceptable resists] at opened
    cases opened

/-- The call creates no secret under the id of the row. -/
def ServiceCall.Avoids (id : Guid) : ServiceCall → Prop
  | .createSecret generated _ => generated.newGuid.value ≠ id
  | _ => True

/-- A call that reveals the row gives back what was sealed in it. -/
def ServiceCall.Gives (row : Secret) (text : Utf16) (call : ServiceCall)
    (outcome : ServiceOutcome) : Prop :=
  ∀ generated request response, call = .revealAndDisposeSecret generated request →
    request.guid = row.id → outcome = .ok (.revealSecret response) →
      response.password = text

theorem OnlyAs.insertSecret {db : Db} (only : OnlyAs row db) {secret : Secret}
    (absent : db.secrets.find? secret.materialized.id = none)
    (differs : secret.materialized.id ≠ row.id) :
    OnlyAs row (db.withSecrets (db.secrets.insert secret.materialized absent)) := by
  intro stored found
  apply only
  rw [← found]
  exact (Table.find?_insert_ne _ _ absent differs).symm

theorem OnlyAs.deleteSecret {db : Db} (only : OnlyAs row db) (id : Guid) :
    OnlyAs row (db.withSecrets (db.secrets.delete id)) := by
  intro stored found
  apply only
  by_cases removed : row.id = id
  · have gone : (db.secrets.delete id).find? row.id = none := by
      rw [removed]
      exact Table.find?_delete_self ..
    cases gone.symm.trans found
  · rw [← found]
    exact (Table.find?_delete_ne _ removed).symm

theorem maintains_onlyAs_insert {secret : Secret} (differs : secret.id ≠ row.id) :
    Maintains (OnlyAs row) (fun _ => True)
      (Program.atomically (ServiceCall.insert secret)) := by
  apply Maintains.atomically
  intro db only
  refine ⟨?_, trivial⟩
  unfold ServiceCall.insert
  cases inserted : db.insertSecret secret with
  | ok next =>
      obtain ⟨-, -, absent, rfl⟩ := Db.insertSecret_eq_ok_iff.mp inserted
      exact only.insertSecret absent differs
  | error exception => exact only

theorem ServiceCall.response_of_dispose {secret : Secret}
    {response answered : RevealSecretResponse} {db : Db}
    (succeeded : (ServiceCall.dispose secret response db).1 =
      .ok (.revealSecret answered)) : answered = response := by
  unfold ServiceCall.dispose at succeeded
  cases deleted : db.deleteSecret secret.id with
  | ok next =>
      rw [deleted] at succeeded
      cases succeeded
      rfl
  | error exception =>
      rw [deleted] at succeeded
      cases succeeded

theorem maintains_onlyAs_dispose {post : ServiceOutcome → Prop} {secret : Secret}
    {response : RevealSecretResponse}
    (settled : ∀ db, post (ServiceCall.dispose secret response db).1) :
    Maintains (OnlyAs row) post
      (Program.atomically (ServiceCall.dispose secret response)) := by
  apply Maintains.atomically
  intro db only
  refine ⟨?_, settled db⟩
  unfold ServiceCall.dispose
  cases deleted : db.deleteSecret secret.id with
  | ok next =>
      obtain ⟨-, rfl⟩ := Db.deleteSecret_eq_ok_iff.mp deleted
      exact only.deleteSecret secret.id
  | error exception => exact only

theorem maintains_onlyAs_createSecret {generated : Generated} {request : CreateSecretRequest}
    (differs : generated.newGuid.value ≠ row.id) :
    Maintains (OnlyAs row) (fun _ => True)
      ((ServiceCall.createSecret generated request).program crypto) := by
  rw [ServiceCall.program_createSecret]
  cases prepared : prepare crypto generated request with
  | error exception => trivial
  | ok secret =>
      obtain ⟨encryptedValue, rfl⟩ := entity_of_prepare prepared
      exact maintains_onlyAs_insert differs

theorem maintains_onlyAs_reveal (lawful : crypto.Lawful) (holds : Holds crypto row contents)
    (generated : Generated) (request : RevealSecretRequest)
    (rightly : contents.OpensRightly crypto request.passphrase) :
    Maintains (OnlyAs row)
      (fun outcome => ∀ response, request.guid = row.id →
        outcome = .ok (.revealSecret response) →
          response.password = Utf8.getString (Utf8.getBytes contents.plaintext))
      ((ServiceCall.revealAndDisposeSecret generated request).program crypto) := by
  rw [ServiceCall.program_reveal]
  cases accepted : precheck request with
  | error exception =>
      intro response _ succeeded
      cases succeeded
  | ok _ =>
      obtain ⟨acceptable, -⟩ := precheck_eq_ok_iff.mp accepted
      intro db only
      refine ⟨only, ?_⟩
      dsimp only
      cases found : db.secrets.find? request.guid with
      | none =>
          intro response _ succeeded
          cases succeeded
      | some secret =>
          unfold ServiceCall.afterLookup
          dsimp only
          cases opened : openSecret crypto (generated.utcNow 0) request secret with
          | error exception =>
              intro response _ succeeded
              cases succeeded
          | ok response =>
              apply maintains_onlyAs_dispose
              intro later answered named succeeded
              have same : answered = response :=
                ServiceCall.response_of_dispose succeeded
              rw [named] at found
              rw [only secret found] at opened
              rw [same]
              exact openSecret_text lawful holds acceptable rightly opened

theorem maintains_onlyAs {presented : Set Utf16} {kept : Set Contents}
    (ideal : crypto.Ideal presented kept) (holds : Holds crypto row contents)
    (member : contents ∈ kept) {call : ServiceCall} (avoids : call.Avoids row.id)
    (presents : ∀ passphrase, call.Presents passphrase → passphrase ∈ presented) :
    Maintains (OnlyAs row)
      (call.Gives row (Utf8.getString (Utf8.getBytes contents.plaintext)))
      (call.program crypto) := by
  cases call with
  | createSecret generated request =>
      refine (maintains_onlyAs_createSecret avoids).weaken ?_
      intro outcome _ revealing asked response same
      cases same
  | revealAndDisposeSecret generated request =>
      have asked : ∀ passphrase ∈ request.passphrase, passphrase ∈ presented :=
        fun passphrase given => presents passphrase ⟨generated, request, rfl, given⟩
      refine (maintains_onlyAs_reveal ideal.toLawful holds generated request
        (ideal.opensRightly asked member)).weaken ?_
      intro outcome gives revealing asked response same named succeeded
      cases same
      exact gives response named succeeded
  | getSecretsCreatedByUser request =>
      rw [ServiceCall.program_list]
      split
      next =>
        intro revealing asked response same
        cases same
      next =>
        intro db only
        refine ⟨only, ?_⟩
        intro revealing asked response same
        cases same

/-- Whichever calls overlap after a secret was created, and whichever passphrase a reveal
of it presents, the text it gives back repairs the one that was handed in. -/
theorem revealed_texts_repair_plaintexts {ι : Type} [DecidableEq ι]
    {calls : ι → ServiceCall} {start created : Db} {generated : Generated}
    {request : CreateSecretRequest} {response : CreateSecretResponse}
    (ideal : crypto.Ideal {passphrase | ∃ call, (calls call).Presents passphrase}
      {contents | Asks request generated contents})
    (succeeded : ((ServiceCall.createSecret generated request).program crypto).run start =
      (.ok (.createSecret response), created))
    (fresh : ∀ call, (calls call).Avoids response.guid) {trace : List (Event ι)}
    {config : Config ι Db ServiceOutcome}
    (run : Run (fun call => (calls call).program crypto) (.initial created) trace config) :
    ∃ plaintext, request.secret = some plaintext ∧
      ∀ call revealing asked revealed,
        calls call = .revealAndDisposeSecret revealing asked →
          asked.guid = response.guid →
            config.threads call = .returned (.ok (.revealSecret revealed)) →
              Repairs plaintext revealed.password := by
  obtain ⟨contents, asks, rfl, stored⟩ := stored_of_created ideal.toLawful succeeded
  have only : OnlyAs (sealedSecret crypto generated request contents).materialized
      created := by
    intro secret found
    exact (Option.some.inj (stored.symm.trans found)).symm
  obtain ⟨-, gives⟩ := maintained
    (fun call => maintains_onlyAs ideal (holds_sealedSecret asks).materialized asks
      (fresh call) fun _ presents => ⟨call, presents⟩)
    only run
  refine ⟨contents.plaintext, asks.secret, ?_⟩
  intro call revealing asked revealed same named returned
  rw [gives call _ returned revealing asked revealed same named rfl]
  exact getString_getBytes_repairs contents.plaintext

end Calls

/-! A text with half of a surrogate pair in it, revealed at the first tick while another
secret is created. -/

namespace HalfPair

def contents : Contents where
  plaintext := [0x61, 0xD83D, 0x62]
  passphrase := Utf16.ofString "pass"
  lifetime := .hour
  salt := (default : Generated).salt
  nonce := (default : Generated).nonce
  plaintext_ne_nil := by decide
  acceptable := pass_acceptable

def request : CreateSecretRequest where
  secret := some contents.plaintext
  ttl := some (Utf16.ofString "hour")
  passphrase := some contents.passphrase

def secret : Secret := sealedSecret Crypto.byteSum default request contents

def created : Db :=
  (default : Db).withSecrets (Table.empty.insert secret.materialized rfl)

def otherGenerated : Generated :=
  { (default : Generated) with newGuid := ⟨2, Guid.two_ne_empty⟩ }

def calls (reveals : Bool) : ServiceCall :=
  if reveals then .revealAndDisposeSecret default ⟨secret.id, request.passphrase⟩
  else .createSecret otherGenerated request

def programs (reveals : Bool) : Program Db ServiceOutcome :=
  (calls reveals).program Crypto.byteSum

def otherSecret : Secret := sealedSecret Crypto.byteSum otherGenerated request contents

def bothCreated : Db :=
  created.withSecrets (created.secrets.insert otherSecret.materialized rfl)

theorem asks : Asks request default contents := ⟨rfl, rfl, rfl, rfl, rfl⟩

theorem run_create : ((ServiceCall.createSecret default request).program
    Crypto.byteSum).run default =
      (.ok (.createSecret (toCreateResponse secret)), created) :=
  run_createSecret_of_asks Crypto.byteSum_lawful asks (by simp [request,
    Db.ReferencesUser]) rfl

theorem run_createOther : (programs false).run created =
    (.ok (.createSecret (toCreateResponse otherSecret)), bothCreated) :=
  run_createSecret_of_asks Crypto.byteSum_lawful ⟨rfl, rfl, rfl, rfl, rfl⟩ (by simp [request,
    Db.ReferencesUser]) rfl

theorem run_reveal : ∃ revealed,
    ((programs true).run bothCreated).1 = .ok (.revealSecret revealed) := by
  have stored : created.secrets.find? secret.id = some secret.materialized :=
    Table.find?_insert_self Table.empty secret.materialized rfl
  have found : bothCreated.secrets.find? secret.id = some secret.materialized :=
    (Table.find?_insert_ne _ _ rfl (by decide)).trans stored
  have ran := reveal_unlocked Crypto.byteSum_lawful default
    ⟨secret.id, request.passphrase⟩ found (holds_sealedSecret asks).materialized
    (precheck_eq_ok_iff.mpr ⟨pass_acceptable, by decide⟩)
    (TimeToLive.deadline_of_le (by decide)) (by decide) (contents.unlocks_self _)
  exact ⟨_, congrArg Prod.fst ran⟩

theorem run : ∃ trace config, Run programs (.initial created) trace config ∧
    (∃ response, config.threads false = .returned (.ok (.createSecret response))) ∧
    ∃ revealed, config.threads true = .returned (.ok (.revealSecret revealed)) := by
  have invoked : Run programs (.initial created) ([] ++ [.invoke true] ++ [.invoke false]) _ :=
    .snoc (.snoc .nil (.invoke rfl)) (.invoke rfl)
  obtain ⟨_, stored⟩ := invoked.finish false rfl
  obtain ⟨trace, answered⟩ := stored.finish true rfl
  obtain ⟨revealed, succeeded⟩ := run_reveal
  have reached : ((programs false).run created).2 = bothCreated :=
    congrArg Prod.snd run_createOther
  rw [← reached] at succeeded
  exact ⟨trace, _, answered, ⟨_, congrArg (Thread.returned ∘ Prod.fst) run_createOther⟩,
    revealed, congrArg Thread.returned succeeded⟩

end HalfPair

theorem revealed_texts_repair_plaintexts_halfPair :
    ∃ trace config, Run HalfPair.programs (.initial HalfPair.created) trace config ∧
      (∃ response, config.threads false = .returned (.ok (.createSecret response))) ∧
      ∃ revealed, config.threads true = .returned (.ok (.revealSecret revealed)) ∧
        Repairs HalfPair.contents.plaintext revealed.password := by
  obtain ⟨trace, config, run, created, revealed, returned⟩ := HalfPair.run
  have avoids : ∀ call, (HalfPair.calls call).Avoids
      (toCreateResponse HalfPair.secret).guid := by
    intro call
    cases call with
    | true => trivial
    | false =>
        change HalfPair.otherGenerated.newGuid.value ≠ HalfPair.secret.id
        decide
  obtain ⟨plaintext, asked, repairs⟩ := revealed_texts_repair_plaintexts
    (Crypto.byteSum_ideal _ _) HalfPair.run_create avoids run
  cases asked
  exact ⟨trace, config, run, created, revealed, returned, repairs true _ _ _ rfl rfl returned⟩

end SecretServer.Services
