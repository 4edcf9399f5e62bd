import Mathlib.Data.UInt
import SecretServer.Services.Encryption

namespace SecretServer.Services

open Text Data

namespace EncryptionService

/-! What `Encrypt` writes, and what `Decrypt` reads back from it. -/

theorem newBytes_ofNat (length : Nat) :
    newBytes (length : Int) = .ok (List.replicate length 0) := by
  simp [newBytes]

theorem blockCopy_next (written part : List UInt8) {offset count : Nat} (free : Nat)
    (atEnd : offset = written.length) (whole : count = part.length)
    (room : part.length ≤ free) :
    blockCopy part 0 (written ++ List.replicate free 0) offset count =
      .ok (written ++ part ++ List.replicate (free - part.length) 0) := by
  rw [blockCopy, Buffer.blockCopy_next 0 written part free atEnd whole room]

theorem blockCopy_part (before part after : List UInt8) {offset count length : Nat}
    (atPart : offset = before.length) (whole : count = part.length)
    (fits : length = part.length) :
    blockCopy (before ++ part ++ after) offset (List.replicate length 0) 0 count =
      .ok part := by
  rw [fits, blockCopy, Buffer.blockCopy_part 0 before part after atPart whole]

theorem combine_eq {salt nonce ciphertext tag : List UInt8}
    (saltLength : salt.length = saltSize) (nonceLength : nonce.length = nonceSize)
    (tagLength : tag.length = tagSize) :
    combine salt nonce ciphertext tag = .ok (salt ++ nonce ++ ciphertext ++ tag) := by
  have first : blockCopy salt 0 (List.replicate
      (saltSize + nonceSize + ciphertext.length + tagSize) 0) 0 saltSize =
      .ok (salt ++ List.replicate (nonceSize + ciphertext.length + tagSize) 0) := by
    have copied := blockCopy_next [] salt
      (saltSize + nonceSize + ciphertext.length + tagSize)
      rfl saltLength.symm (by omega)
    rw [List.nil_append, List.nil_append, List.length_nil] at copied
    rw [copied, show saltSize + nonceSize + ciphertext.length + tagSize - salt.length =
      nonceSize + ciphertext.length + tagSize by omega]
  have second : blockCopy nonce 0 (salt ++ List.replicate
      (nonceSize + ciphertext.length + tagSize) 0) saltSize nonceSize =
      .ok (salt ++ nonce ++ List.replicate (ciphertext.length + tagSize) 0) := by
    rw [blockCopy_next salt nonce _ saltLength.symm nonceLength.symm (by omega),
      show nonceSize + ciphertext.length + tagSize - nonce.length =
        ciphertext.length + tagSize by omega]
  have third : blockCopy ciphertext 0 (salt ++ nonce ++ List.replicate
      (ciphertext.length + tagSize) 0) (saltSize + nonceSize) ciphertext.length =
      .ok (salt ++ nonce ++ ciphertext ++ List.replicate tagSize 0) := by
    rw [blockCopy_next (salt ++ nonce) ciphertext _
      (by rw [List.length_append, saltLength, nonceLength]) rfl (by omega),
      Nat.add_sub_cancel_left]
  have fourth : blockCopy tag 0 (salt ++ nonce ++ ciphertext ++
      List.replicate tagSize 0) (saltSize + nonceSize + ciphertext.length) tagSize =
      .ok (salt ++ nonce ++ ciphertext ++ tag) := by
    rw [blockCopy_next (salt ++ nonce ++ ciphertext) tag _
      (by simp only [List.length_append, saltLength, nonceLength])
      tagLength.symm (by omega), tagLength, Nat.sub_self, List.replicate_zero,
      List.append_nil]
  simp only [combine, newBytes_ofNat, first, second, third, fourth, bind, Except.bind]

variable {Key : Type} (crypto : Crypto Key)

/-- The buffers and copies of `Decrypt` on these bytes, each of them in range. -/
structure Splits (data salt nonce ciphertext tag : List UInt8) : Prop where
  allocates : newBytes ((data.length : Int) - saltSize - nonceSize - tagSize) =
    .ok (List.replicate ciphertext.length 0)
  copiesSalt : blockCopy data 0 (List.replicate saltSize 0) 0 saltSize = .ok salt
  copiesNonce : blockCopy data saltSize (List.replicate nonceSize 0) 0 nonceSize = .ok nonce
  copiesCiphertext : blockCopy data (saltSize + nonceSize)
    (List.replicate ciphertext.length 0) 0 ciphertext.length = .ok ciphertext
  copiesTag : blockCopy data (saltSize + nonceSize + ciphertext.length)
    (List.replicate tagSize 0) 0 tagSize = .ok tag

theorem splits_append {salt nonce ciphertext tag : List UInt8}
    (saltLength : salt.length = saltSize) (nonceLength : nonce.length = nonceSize)
    (tagLength : tag.length = tagSize) :
    Splits (salt ++ nonce ++ ciphertext ++ tag) salt nonce ciphertext tag where
  allocates := by
    have total : (salt ++ nonce ++ ciphertext ++ tag).length =
        saltSize + nonceSize + ciphertext.length + tagSize := by
      simp only [List.length_append, saltLength, nonceLength, tagLength]
    have middle : ((salt ++ nonce ++ ciphertext ++ tag).length : Int) - saltSize -
        nonceSize - tagSize = (ciphertext.length : Nat) := by
      rw [total]
      omega
    rw [middle, newBytes_ofNat]
  copiesSalt := by
    have part := blockCopy_part [] salt (nonce ++ ciphertext ++ tag) rfl
      saltLength.symm saltLength.symm
    simpa using part
  copiesNonce := by
    have part := blockCopy_part salt nonce (ciphertext ++ tag) saltLength.symm
      nonceLength.symm nonceLength.symm
    simpa using part
  copiesCiphertext :=
    blockCopy_part (salt ++ nonce) ciphertext tag
      (by rw [List.length_append, saltLength, nonceLength]) rfl rfl
  copiesTag := by
    have atTag : saltSize + nonceSize + ciphertext.length =
        (salt ++ nonce ++ ciphertext).length := by
      simp only [List.length_append, saltLength, nonceLength]
    have part := blockCopy_part (salt ++ nonce ++ ciphertext) tag [] atTag
      tagLength.symm tagLength.symm
    rwa [List.append_nil] at part

theorem openEnvelope_of_decode {encryptedData passphrase : Utf16}
    {salt nonce ciphertext tag : List UInt8}
    (saltLength : salt.length = saltSize) (nonceLength : nonce.length = nonceSize)
    (tagLength : tag.length = tagSize)
    (decoded : Base64.decode encryptedData =
      some (salt ++ nonce ++ ciphertext ++ tag)) :
    openEnvelope crypto encryptedData passphrase =
      match crypto.decrypt (deriveKey crypto passphrase salt) nonce ciphertext tag with
      | some plaintextBytes => .ok (Utf8.getString plaintextBytes)
      | none => .error .cryptographic := by
  have long : ¬ (salt ++ nonce ++ ciphertext ++ tag).length <
      saltSize + nonceSize + tagSize := by
    simp only [List.length_append, saltLength, nonceLength, tagLength]
    omega
  have splits : Splits (salt ++ nonce ++ ciphertext ++ tag) salt nonce ciphertext tag :=
    splits_append saltLength nonceLength tagLength
  simp only [openEnvelope, decoded, if_neg long, newBytes_ofNat, splits.allocates,
    List.length_replicate, splits.copiesSalt, splits.copiesNonce,
    splits.copiesCiphertext, splits.copiesTag, bind, Except.bind]
  rfl

theorem decrypt_of_decode {encryptedData passphrase : Utf16}
    {salt nonce ciphertext tag : List UInt8} (dataNonempty : encryptedData ≠ [])
    (passphraseNonempty : passphrase ≠ []) (saltLength : salt.length = saltSize)
    (nonceLength : nonce.length = nonceSize) (tagLength : tag.length = tagSize)
    (decoded : Base64.decode encryptedData =
      some (salt ++ nonce ++ ciphertext ++ tag)) :
    decrypt crypto (some encryptedData) (some passphrase) =
      match crypto.decrypt (deriveKey crypto passphrase salt) nonce ciphertext tag with
      | some plaintextBytes => .ok (Utf8.getString plaintextBytes)
      | none => .error (.unauthorizedAccess
          ⟨"Decryption failed. Invalid passphrase or corrupted data.", []⟩) := by
  have dataPresent : Utf16.isNullOrEmpty (some encryptedData) = false :=
    Utf16.isNullOrEmpty_eq_false_iff.2 ⟨encryptedData, rfl, dataNonempty⟩
  have passphrasePresent : Utf16.isNullOrEmpty (some passphrase) = false :=
    Utf16.isNullOrEmpty_eq_false_iff.2 ⟨passphrase, rfl, passphraseNonempty⟩
  simp only [decrypt, dataPresent, passphrasePresent, Bool.false_eq_true, if_false,
    Option.getD_some]
  rw [openEnvelope_of_decode crypto saltLength nonceLength tagLength decoded]
  cases crypto.decrypt (deriveKey crypto passphrase salt) nonce ciphertext tag with
  | none => rfl
  | some plaintextBytes => rfl

def sealedBytes (plaintext passphrase : Utf16) (salt : Salt) (nonce : Nonce) :
    List UInt8 × List UInt8 :=
  crypto.encrypt (deriveKey crypto passphrase salt.toList) nonce.toList
    (Utf8.getBytes plaintext)

def envelope (plaintext passphrase : Utf16) (salt : Salt) (nonce : Nonce) : Utf16 :=
  Base64.encode (salt.toList ++ nonce.toList ++
    (sealedBytes crypto plaintext passphrase salt nonce).1 ++
    (sealedBytes crypto plaintext passphrase salt nonce).2)

theorem salt_length (salt : Salt) : salt.toList.length = saltSize := by simp

theorem nonce_length (nonce : Nonce) : nonce.toList.length = nonceSize := by simp

theorem decode_envelope (plaintext passphrase : Utf16) (salt : Salt)
    (nonce : Nonce) :
    Base64.decode (envelope crypto plaintext passphrase salt nonce) =
      some (salt.toList ++ nonce.toList ++
        (sealedBytes crypto plaintext passphrase salt nonce).1 ++
        (sealedBytes crypto plaintext passphrase salt nonce).2) :=
  Base64.decode_encode _

theorem envelope_ne_nil (plaintext passphrase : Utf16) (salt : Salt)
    (nonce : Nonce) : envelope crypto plaintext passphrase salt nonce ≠ [] := by
  apply Base64.encode_ne_nil
  intro empty
  have length := congrArg List.length empty
  rw [List.length_append, List.length_append, List.length_append, salt_length]
    at length
  exact absurd length (by simp [saltSize])

variable {crypto}

theorem sealedBytes_tag_length (lawful : crypto.Lawful)
    (plaintext passphrase : Utf16) (salt : Salt) (nonce : Nonce) :
    (sealedBytes crypto plaintext passphrase salt nonce).2.length = tagSize :=
  lawful.tag_length _ _ _

theorem encrypt_eq_ok (lawful : crypto.Lawful) {plaintext passphrase : Utf16}
    (plaintextNonempty : plaintext ≠ []) (passphraseNonempty : passphrase ≠ [])
    (salt : Salt) (nonce : Nonce) :
    encrypt crypto (some plaintext) (some passphrase) salt nonce =
      .ok (envelope crypto plaintext passphrase salt nonce) := by
  have tagLength := sealedBytes_tag_length lawful plaintext passphrase salt nonce
  have checked : encryptChecked crypto plaintext passphrase salt nonce =
      .ok (envelope crypto plaintext passphrase salt nonce) := by
    change (combine salt.toList nonce.toList
      (sealedBytes crypto plaintext passphrase salt nonce).1
      (sealedBytes crypto plaintext passphrase salt nonce).2 >>= _) = _
    rw [combine_eq (salt_length salt) (nonce_length nonce) tagLength]
    rfl
  have plaintextPresent : Utf16.isNullOrEmpty (some plaintext) = false :=
    Utf16.isNullOrEmpty_eq_false_iff.2 ⟨plaintext, rfl, plaintextNonempty⟩
  have passphrasePresent : Utf16.isNullOrEmpty (some passphrase) = false :=
    Utf16.isNullOrEmpty_eq_false_iff.2 ⟨passphrase, rfl, passphraseNonempty⟩
  simp only [encrypt, plaintextPresent, passphrasePresent, Bool.false_eq_true, if_false,
    Option.getD_some, checked]

theorem decrypt_envelope_eq (lawful : crypto.Lawful) (plaintext passphrase : Utf16)
    {presented : Utf16} (presentedNonempty : presented ≠ []) (salt : Salt)
    (nonce : Nonce) :
    decrypt crypto (some (envelope crypto plaintext passphrase salt nonce))
        (some presented) =
      match crypto.decrypt (deriveKey crypto presented salt.toList) nonce.toList
        (sealedBytes crypto plaintext passphrase salt nonce).1
        (sealedBytes crypto plaintext passphrase salt nonce).2 with
      | some plaintextBytes => .ok (Utf8.getString plaintextBytes)
      | none => .error (.unauthorizedAccess
          ⟨"Decryption failed. Invalid passphrase or corrupted data.", []⟩) :=
  decrypt_of_decode crypto (envelope_ne_nil crypto plaintext passphrase salt nonce)
    presentedNonempty (salt_length salt) (nonce_length nonce)
    (sealedBytes_tag_length lawful plaintext passphrase salt nonce)
    (decode_envelope crypto plaintext passphrase salt nonce)

theorem decrypt_sameKey (lawful : crypto.Lawful) (plaintext passphrase : Utf16)
    {presented : Utf16} (presentedNonempty : presented ≠ []) (salt : Salt)
    (nonce : Nonce)
    (sameKey : deriveKey crypto presented salt.toList =
      deriveKey crypto passphrase salt.toList) :
    decrypt crypto (some (envelope crypto plaintext passphrase salt nonce))
      (some presented) = .ok (Utf8.getString (Utf8.getBytes plaintext)) := by
  rw [decrypt_envelope_eq lawful plaintext passphrase presentedNonempty, sameKey,
    sealedBytes, lawful.decrypt_encrypt]

theorem decrypt_otherKey (lawful : crypto.Lawful) (plaintext passphrase : Utf16)
    {presented : Utf16} (presentedNonempty : presented ≠ []) (salt : Salt)
    (nonce : Nonce)
    (refused : crypto.decrypt (deriveKey crypto presented salt.toList) nonce.toList
      (sealedBytes crypto plaintext passphrase salt nonce).1
      (sealedBytes crypto plaintext passphrase salt nonce).2 = none) :
    decrypt crypto (some (envelope crypto plaintext passphrase salt nonce))
        (some presented) =
      .error (.unauthorizedAccess
        ⟨"Decryption failed. Invalid passphrase or corrupted data.", []⟩) := by
  rw [decrypt_envelope_eq lawful plaintext passphrase presentedNonempty, refused]

theorem decrypt_undoes_encrypt (lawful : crypto.Lawful) {plaintext passphrase : Utf16}
    (plaintextNonempty : plaintext ≠ []) (passphraseNonempty : passphrase ≠ [])
    (plaintextWellFormed : plaintext.WellFormed)
    (salt : Salt) (nonce : Nonce) :
    ∃ encrypted ciphertext tag,
      encrypt crypto (some plaintext) (some passphrase) salt nonce = .ok encrypted ∧
        decrypt crypto (some encrypted) (some passphrase) = .ok plaintext ∧
        Base64.decode encrypted =
          some (salt.toList ++ nonce.toList ++ ciphertext ++ tag) ∧
        ciphertext.length = (Utf8.getBytes plaintext).length ∧
        tag.length = tagSize := by
  refine ⟨_, _, _,
    encrypt_eq_ok lawful plaintextNonempty passphraseNonempty salt nonce, ?_,
    decode_envelope crypto plaintext passphrase salt nonce,
    lawful.ciphertext_length _ _ _,
    sealedBytes_tag_length lawful plaintext passphrase salt nonce⟩
  rw [decrypt_sameKey lawful plaintext passphrase passphraseNonempty salt nonce rfl,
    Utf8.getString_getBytes_of_wellFormed plaintextWellFormed]

end EncryptionService

/-- A stand-in for the primitives: the key is the sum of the passphrase's and the
salt's bytes, the text stays as it is, and the tag repeats the key. -/
def Crypto.byteSum : Crypto UInt8 where
  pbkdf2 := fun password salt _ _ => password.sum + salt.sum
  encrypt := fun key _ plaintext =>
    (plaintext, List.replicate EncryptionService.tagSize key)
  decrypt := fun key _ ciphertext tag =>
    if tag = List.replicate EncryptionService.tagSize key then some ciphertext
    else none

theorem Crypto.byteSum_lawful : Crypto.byteSum.Lawful where
  ciphertext_length := fun _ _ _ => rfl
  tag_length := fun _ _ _ => List.length_replicate
  decrypt_encrypt := fun _ _ _ => if_pos rfl

theorem Crypto.byteSum_wrong_key {key other : UInt8} (nonce plaintext : List UInt8)
    (different : other ≠ key) :
    Crypto.byteSum.decrypt other nonce (Crypto.byteSum.encrypt key nonce plaintext).1
      (Crypto.byteSum.encrypt key nonce plaintext).2 = none := by
  refine if_neg fun same => different ?_
  exact ((List.replicate_right_inj (by decide)).1 same).symm

namespace EncryptionService

theorem decrypt_undoes_encrypt_lock :
    ∃ encrypted ciphertext tag,
      encrypt Crypto.byteSum (some (Utf16.ofString "a\x00🔒"))
          (some (Utf16.ofString "abc")) (Vector.replicate _ 7)
          (Vector.replicate _ 9) = .ok encrypted ∧
        decrypt Crypto.byteSum (some encrypted) (some (Utf16.ofString "abc")) =
          .ok (Utf16.ofString "a\x00🔒") ∧
        Base64.decode encrypted =
          some ((Vector.replicate saltSize (7 : UInt8)).toList ++
            (Vector.replicate nonceSize (9 : UInt8)).toList ++ ciphertext ++ tag) ∧
        ciphertext.length = (Utf8.getBytes (Utf16.ofString "a\x00🔒")).length ∧
        tag.length = tagSize :=
  decrypt_undoes_encrypt Crypto.byteSum_lawful (by decide) (by decide)
    (Utf16.wellFormed_ofString _) _ _

end EncryptionService

end SecretServer.Services
