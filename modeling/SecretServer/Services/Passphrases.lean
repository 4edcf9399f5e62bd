import SecretServer.Data.HmacKey
import SecretServer.Services.Expiry

namespace SecretServer.Services

open Text Data Concurrency Database EncryptionService SecretService HmacKey

/-! Which passphrases open a secret besides the one that it was created with. -/

section Prepared

variable {hash : Hash} {first second : Utf16}

/-- Two strings that differ in NUL characters at their ends. -/
def SameUpToNuls (first second : Utf16) : Prop :=
  ∃ firstNuls secondNuls,
    first ++ List.replicate firstNuls 0 = second ++ List.replicate secondNuls 0

def SamePreparedKey (hash : Hash) (first second : Utf16) : Prop :=
  preparedKey hash (Utf8.getBytes first) = preparedKey hash (Utf8.getBytes second)

inductive Interchangeable (hash : Hash) (first second : Utf16) : Prop
  | short (firstShort : (Utf8.getBytes first).length ≤ blockSize)
      (secondShort : (Utf8.getBytes second).length ≤ blockSize)
      (same : SameUpToNuls first second)
  | hashed (long : blockSize < (Utf8.getBytes first).length ∨
        blockSize < (Utf8.getBytes second).length)
      (same : SameUpToZeros (hashedKey hash (Utf8.getBytes first))
        (hashedKey hash (Utf8.getBytes second)))

theorem utf8_encode_nuls (chars : List Char) (nuls : Nat) :
    Utf8.encode (chars ++ List.replicate nuls '\x00') =
      Utf8.encode chars ++ List.replicate nuls 0 := by
  have nul : String.utf8EncodeChar '\x00' = [0] := by decide
  rw [Utf8.encode, List.flatMap_append, List.flatMap_replicate, nul]
  congr 1
  exact List.flatten_replicate_singleton

theorem utf16_encode_nuls (chars : List Char) (nuls : Nat) :
    Utf16.encode (chars ++ List.replicate nuls '\x00') =
      Utf16.encode chars ++ List.replicate nuls 0 := by
  have nul : Utf16.encodeChar '\x00' = [0] := by decide
  rw [Utf16.encode, List.flatMap_append, List.flatMap_replicate, nul]
  congr 1
  exact List.flatten_replicate_singleton

theorem sameUpToZeros_getBytes_iff (firstFormed : first.WellFormed)
    (secondFormed : second.WellFormed) :
    SameUpToZeros (Utf8.getBytes first) (Utf8.getBytes second) ↔
      SameUpToNuls first second := by
  obtain ⟨chars, rfl⟩ := firstFormed
  obtain ⟨others, rfl⟩ := secondFormed
  simp only [SameUpToZeros, SameUpToNuls, Utf8.getBytes, Utf16.scalars_encode,
    ← utf8_encode_nuls, ← utf16_encode_nuls]
  constructor
  · rintro ⟨firstNuls, secondNuls, same⟩
    have sameChars := congrArg Utf8.decode same
    rw [Utf8.decode_encode, Utf8.decode_encode] at sameChars
    exact ⟨firstNuls, secondNuls, by rw [sameChars]⟩
  · rintro ⟨firstNuls, secondNuls, same⟩
    have sameChars := congrArg Utf16.scalars same
    rw [Utf16.scalars_encode, Utf16.scalars_encode] at sameChars
    exact ⟨firstNuls, secondNuls, by rw [sameChars]⟩

theorem samePreparedKey_iff (firstFormed : first.WellFormed)
    (secondFormed : second.WellFormed) :
    SamePreparedKey hash first second ↔ Interchangeable hash first second := by
  by_cases short : (Utf8.getBytes first).length ≤ blockSize ∧
      (Utf8.getBytes second).length ≤ blockSize
  · obtain ⟨firstShort, secondShort⟩ := short
    rw [SamePreparedKey, preparedKey_eq_iff_of_short firstShort secondShort,
      sameUpToZeros_getBytes_iff firstFormed secondFormed]
    constructor
    · exact .short firstShort secondShort
    · intro interchangeable
      cases interchangeable with
      | short _ _ same => exact same
      | hashed long same =>
          rcases long with firstLong | secondLong
          · exact absurd firstShort (Nat.not_le.mpr firstLong)
          · exact absurd secondShort (Nat.not_le.mpr secondLong)
  · rw [SamePreparedKey, preparedKey_eq_iff]
    have long : blockSize < (Utf8.getBytes first).length ∨
        blockSize < (Utf8.getBytes second).length := by omega
    constructor
    · exact .hashed long
    · intro interchangeable
      cases interchangeable with
      | short firstShort secondShort _ => exact absurd ⟨firstShort, secondShort⟩ short
      | hashed _ same => exact same

end Prepared

/-- All that PBKDF2 takes from a password is its prepared key. -/
def Crypto.TakesPreparedKey {Key : Type} (crypto : Crypto Key) (hash : Hash) : Prop :=
  ∀ password other salt iterations keySize,
    preparedKey hash password = preparedKey hash other →
      crypto.pbkdf2 password salt iterations keySize =
        crypto.pbkdf2 other salt iterations keySize

/-- PBKDF2, with the salt, the iterations and the key size that it is called with, derives
different keys from these two passwords, unless they prepare the same one. -/
def Crypto.TellsApart {Key : Type} (crypto : Crypto Key) (hash : Hash) (salt : Salt)
    (password other : List UInt8) : Prop :=
  preparedKey hash password ≠ preparedKey hash other →
    crypto.pbkdf2 password salt.toList iterations keySize ≠
      crypto.pbkdf2 other salt.toList iterations keySize

section Reveals

variable {Key : Type} {crypto : Crypto Key} {hash : Hash} {db : Db} {row : Secret}
  {contents : Contents} {presented : Utf16}

theorem Contents.locked_of_tellsApart
    (apart : crypto.TellsApart hash contents.salt (Utf8.getBytes presented)
      (Utf8.getBytes contents.passphrase))
    (differs : ¬ SamePreparedKey hash presented contents.passphrase) :
    ¬ contents.Unlocks crypto (some presented) := by
  intro ⟨_, same, sameKey⟩
  cases same
  exact apart differs sameKey

theorem Contents.unlocks_of_samePreparedKey (prepares : crypto.TakesPreparedKey hash)
    (same : SamePreparedKey hash presented contents.passphrase) :
    contents.Unlocks crypto (some presented) :=
  ⟨presented, rfl, prepares _ _ _ _ _ same⟩

theorem reveal_locked (lawful : crypto.Lawful) (generated : Generated)
    (request : RevealSecretRequest)
    (found : db.secrets.find? request.guid = some row) (holds : Holds crypto row contents)
    (resists : ∀ passphrase ∈ request.passphrase, contents.Resists crypto passphrase) :
    ∃ exception, ((ServiceCall.revealAndDisposeSecret generated request).program
      crypto).run db = (.error exception, db) := by
  cases checked : precheck request with
  | error exception =>
      rw [ServiceCall.run_reveal, checked]
      exact ⟨exception, rfl⟩
  | ok _ =>
      obtain ⟨acceptable, _⟩ := precheck_eq_ok_iff.mp checked
      rw [ServiceCall.run_reveal_found crypto checked found,
        openSecret_refused lawful holds acceptable resists]
      exact ⟨_, rfl⟩

end Reveals

theorem only_interchangeable_passphrases_reveal {Key : Type} {crypto : Crypto Key}
    {hash : Hash} {start created : Db} (before between : List ServiceCall)
    {generated revealing : Generated} {request : CreateSecretRequest}
    {response : CreateSecretResponse} {creating presented : Utf16}
    (ideal : crypto.Ideal {presented} {contents | Asks request generated contents})
    (succeeded : ((ServiceCall.createSecret generated request).program crypto).run
      (runHistory crypto before start) = (.ok (.createSecret response), created))
    (unrevealed : Unrevealed (historyLog crypto between created) response.guid)
    (requested : request.passphrase = some creating)
    (creatingFormed : creating.WellFormed) (presentedFormed : presented.WellFormed)
    (apart : crypto.TellsApart hash generated.salt (Utf8.getBytes presented)
      (Utf8.getBytes creating))
    (differs : ¬ Interchangeable hash presented creating) :
    ∃ exception secret,
      created.secrets.find? response.guid = some secret ∧
        ((ServiceCall.revealAndDisposeSecret revealing
            ⟨response.guid, some presented⟩).program crypto).run
          (runHistory crypto between created) =
            (.error exception, runHistory crypto between created) ∧
        (runHistory crypto between created).secrets.find? response.guid =
          some secret := by
  obtain ⟨contents, asks, rfl, stored⟩ := stored_of_created ideal.toLawful succeeded
  obtain rfl : contents.passphrase = creating :=
    Option.some.inj (asks.passphrase.symm.trans requested)
  have present : created.secrets.find?
      (sealedSecret crypto generated request contents).materialized.id =
        some (sealedSecret crypto generated request contents).materialized := stored
  have found := find?_runHistory present unrevealed
  have differentKeys : ¬ SamePreparedKey hash presented contents.passphrase :=
    fun same => differs ((samePreparedKey_iff presentedFormed creatingFormed).mp same)
  have locked := contents.locked_of_tellsApart (asks.salt ▸ apart) differentKeys
  have resists : contents.Resists crypto presented :=
    ideal.wrong_key presented rfl contents asks locked
  obtain ⟨exception, refused⟩ := reveal_locked ideal.toLawful revealing
    ⟨_, some presented⟩ found (holds_sealedSecret asks).materialized
    fun _ same => Option.some.inj same ▸ resists
  exact ⟨exception, _, stored, refused, found⟩

/-- A stand-in for the primitives: the key is the sum of the prepared key's and the
salt's bytes. -/
def Crypto.hmacSum (hash : Hash) : Crypto UInt8 :=
  { Crypto.byteSum with
    pbkdf2 := fun password salt _ _ => (preparedKey hash password).sum + salt.sum }

theorem Crypto.hmacSum_lawful (hash : Hash) : (Crypto.hmacSum hash).Lawful where
  ciphertext_length := Crypto.byteSum_lawful.ciphertext_length
  tag_length := Crypto.byteSum_lawful.tag_length
  decrypt_encrypt := Crypto.byteSum_lawful.decrypt_encrypt

theorem Crypto.hmacSum_ideal (hash : Hash) (presented : Set Utf16) (kept : Set Contents) :
    (Crypto.hmacSum hash).Ideal presented kept where
  toLawful := Crypto.hmacSum_lawful hash
  wrong_key := by
    intro passphrase _ contents _ locked
    have differentKeys : deriveKey (Crypto.hmacSum hash) passphrase contents.salt.toList ≠
        deriveKey (Crypto.hmacSum hash) contents.passphrase contents.salt.toList :=
      fun sameKey => locked ⟨passphrase, rfl, sameKey⟩
    exact Crypto.byteSum_wrong_key contents.nonce.toList _ differentKeys

theorem Crypto.hmacSum_pbkdf2 (hash : Hash) (password salt : List UInt8)
    (iterations keySize : Nat) :
    (Crypto.hmacSum hash).pbkdf2 password salt iterations keySize =
      (preparedKey hash password).sum + salt.sum := rfl

theorem Crypto.hmacSum_takesPreparedKey (hash : Hash) :
    (Crypto.hmacSum hash).TakesPreparedKey hash := by
  intro password other salt iterations keySize same
  rw [Crypto.hmacSum_pbkdf2, Crypto.hmacSum_pbkdf2, same]

/-! A secret created under "abc", which "abc" and a NUL character open too. -/

namespace NulPadded

def hash : Hash := fun _ => Vector.replicate _ 0

def contents : Contents where
  plaintext := Utf16.ofString "text"
  passphrase := Utf16.ofString "abc"
  lifetime := .hour
  salt := (default : Generated).salt
  nonce := (default : Generated).nonce
  plaintext_ne_nil := text_ne_nil
  acceptable := by decide

def request : CreateSecretRequest where
  secret := some contents.plaintext
  ttl := some (Utf16.ofString "hour")
  passphrase := some contents.passphrase

def secret : Secret := sealedSecret (Crypto.hmacSum hash) default request contents

def created : Db :=
  (default : Db).withSecrets (Table.empty.insert secret.materialized rfl)

def presented : Utf16 := contents.passphrase ++ [0]

def other : Utf16 := Utf16.ofString "abd"

theorem asks : Asks request default contents := ⟨rfl, rfl, rfl, rfl, rfl⟩

theorem find?_created : created.secrets.find? secret.id = some secret.materialized :=
  Table.find?_insert_self Table.empty secret.materialized rfl

theorem run_create : ((ServiceCall.createSecret default request).program
    (Crypto.hmacSum hash)).run (runHistory (Crypto.hmacSum hash) [] default) =
      (.ok (.createSecret (toCreateResponse secret)), created) :=
  run_createSecret_of_asks (Crypto.hmacSum_lawful hash) asks (by simp [request,
    Db.ReferencesUser]) rfl

theorem samePreparedKey : SamePreparedKey hash presented contents.passphrase := by
  rw [SamePreparedKey, preparedKey_eq_iff_of_short (by decide) (by decide)]
  exact ⟨0, 1, by decide⟩

theorem not_interchangeable_other : ¬ Interchangeable hash other contents.passphrase := by
  intro interchangeable
  cases interchangeable with
  | short _ _ same =>
      obtain ⟨otherNuls, nuls, same⟩ := same
      have sameLength : other.length = contents.passphrase.length := by decide
      have heads := (List.append_inj same sameLength).1
      exact absurd heads (by decide)
  | hashed long _ => exact absurd long (by decide)

theorem tellsApart_other : (Crypto.hmacSum hash).TellsApart hash (default : Generated).salt
    (Utf8.getBytes other) (Utf8.getBytes contents.passphrase) := by
  intro _ same
  rw [Crypto.hmacSum_pbkdf2, Crypto.hmacSum_pbkdf2] at same
  have sums := (UInt8.add_left_inj _).mp same
  exact absurd sums (by decide +kernel)

end NulPadded

open NulPadded in
theorem nul_padded_passphrase_reveals :
    ((ServiceCall.createSecret default request).program (Crypto.hmacSum hash)).run
        (runHistory (Crypto.hmacSum hash) [] default) =
        (.ok (.createSecret (toCreateResponse secret)), created) ∧
      presented ≠ contents.passphrase ∧ presented.WellFormed ∧
      RevealSecretRequestValidator.validate
        ⟨(toCreateResponse secret).guid, some presented⟩ = [] ∧
      ((ServiceCall.revealAndDisposeSecret default
          ⟨(toCreateResponse secret).guid, some presented⟩).program
            (Crypto.hmacSum hash)).run created =
        (.ok (.revealSecret ⟨contents.plaintext⟩),
          created.withSecrets (created.secrets.delete secret.id)) := by
  have accepted : RevealSecretRequestValidator.validate
      ⟨(toCreateResponse secret).guid, some presented⟩ = [] := by decide
  refine ⟨run_create, by decide, by decide, accepted, ?_⟩
  have inRange : secret.materialized.createdAt.ticks + contents.lifetime.grantedTicks ≤
      DateTime.maxTicks := by decide
  have deadline := TimeToLive.deadline_of_le inRange
  exact reveal_unlocked (Crypto.hmacSum_lawful hash) default
    ⟨_, some presented⟩ find?_created (holds_sealedSecret asks).materialized
    (precheck_of_valid accepted (by decide)) deadline (Nat.zero_le _)
    (contents.unlocks_of_samePreparedKey (Crypto.hmacSum_takesPreparedKey hash)
      samePreparedKey)

open NulPadded in
theorem only_interchangeable_passphrases_reveal_abd :
    ∃ exception stored,
      created.secrets.find? (toCreateResponse secret).guid = some stored ∧
        ((ServiceCall.revealAndDisposeSecret default
            ⟨(toCreateResponse secret).guid, some other⟩).program
              (Crypto.hmacSum hash)).run (runHistory (Crypto.hmacSum hash) [] created) =
            (.error exception, runHistory (Crypto.hmacSum hash) [] created) ∧
        (runHistory (Crypto.hmacSum hash) [] created).secrets.find?
          (toCreateResponse secret).guid = some stored :=
  only_interchangeable_passphrases_reveal [] [] (Crypto.hmacSum_ideal hash _ _) run_create
    (fun _ _ _ member => absurd member List.not_mem_nil) rfl
    (Utf16.wellFormed_ofString _) (Utf16.wellFormed_ofString _) tellsApart_other
    not_interchangeable_other

end SecretServer.Services
