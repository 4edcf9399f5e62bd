import SecretServer.Services.Envelope

namespace SecretServer.Services

open Text Data

namespace EncryptionService

/-! What `Decrypt` makes of an arbitrary string: it opens the authentic envelopes,
refuses the others, and calls everything else malformed. -/

structure Envelope where
  salt : Vector UInt8 16
  nonce : Vector UInt8 12
  ciphertext : List UInt8
  tag : Vector UInt8 16
  deriving DecidableEq

namespace Envelope

def bytes (envelope : Envelope) : List UInt8 :=
  envelope.salt.toList ++ envelope.nonce.toList ++ envelope.ciphertext ++
    envelope.tag.toList

theorem tag_length (envelope : Envelope) : envelope.tag.toList.length = tagSize :=
  Vector.length_toList

theorem bytes_injective {left right : Envelope} (same : left.bytes = right.bytes) :
    left = right := by
  obtain ⟨leftSalt, leftNonce, leftCiphertext, leftTag⟩ := left
  obtain ⟨rightSalt, rightNonce, rightCiphertext, rightTag⟩ := right
  obtain ⟨sameFront, sameTag⟩ := List.append_inj' same (by simp)
  obtain ⟨sameHead, rfl⟩ := List.append_inj sameFront (by simp)
  obtain ⟨sameSalt, sameNonce⟩ := List.append_inj sameHead (by simp)
  obtain rfl := Vector.toList_inj.mp sameSalt
  obtain rfl := Vector.toList_inj.mp sameNonce
  obtain rfl := Vector.toList_inj.mp sameTag
  rfl

theorem exists_part_ne {left right : Envelope} (differs : left.bytes ≠ right.bytes) :
    left.salt ≠ right.salt ∨ left.nonce ≠ right.nonce ∨
      left.ciphertext ≠ right.ciphertext ∨ left.tag ≠ right.tag := by
  by_contra same
  simp only [not_or, not_not] at same
  obtain ⟨sameSalt, sameNonce, sameCiphertext, sameTag⟩ := same
  exact differs (by rw [bytes, bytes, sameSalt, sameNonce, sameCiphertext, sameTag])

theorem exists_bytes_eq {data : List UInt8}
    (long : 16 + 12 + 16 ≤ data.length) :
    ∃ envelope : Envelope, envelope.bytes = data := by
  let rest := (data.drop 16).drop 12
  refine ⟨⟨⟨(data.take 16).toArray, ?_⟩,
    ⟨((data.drop 16).take 12).toArray, ?_⟩, rest.take (rest.length - 16),
    ⟨(rest.drop (rest.length - 16)).toArray, ?_⟩⟩, ?_⟩
  · simp
    omega
  · simp
    omega
  · simp [rest]
    omega
  · change data.take 16 ++ (data.drop 16).take 12 ++
      rest.take (rest.length - 16) ++ rest.drop (rest.length - 16) = data
    rw [List.append_assoc, List.take_append_drop, List.append_assoc,
      List.take_append_drop, List.take_append_drop]

theorem splits (envelope : Envelope) :
    Splits envelope.bytes envelope.salt.toList envelope.nonce.toList envelope.ciphertext
      envelope.tag.toList :=
  splits_append (salt_length _) (nonce_length _) envelope.tag_length

end Envelope

variable {Key : Type} (crypto : Crypto Key)

/-- AES-GCM under the 32-byte key that PBKDF2 derives from the passphrase in 100000
iterations. -/
def Envelope.opened (presented : Utf16) (envelope : Envelope) : Option (List UInt8) :=
  crypto.decrypt (crypto.pbkdf2 (Utf8.getBytes presented) envelope.salt.toList 100000 32)
    envelope.nonce.toList envelope.ciphertext envelope.tag.toList

/-- Both arguments are there, and the first one is Base64 of an envelope. -/
structure Presents (encryptedData passphrase : Option Utf16) (presented : Utf16)
    (envelope : Envelope) : Prop where
  presented_eq : passphrase = some presented
  presented_ne_nil : presented ≠ []
  text : ∃ text, encryptedData = some text ∧ text ≠ [] ∧
    Base64.decode text = some envelope.bytes

section Classes

variable {encryptedData passphrase : Option Utf16} {presented : Utf16}
  {envelope : Envelope}

theorem Presents.decrypt_eq (presents : Presents encryptedData passphrase presented envelope) :
    decrypt crypto encryptedData passphrase =
      match envelope.opened crypto presented with
      | some plaintextBytes => .ok (Utf8.getString plaintextBytes)
      | none => .error (.unauthorizedAccess
          ⟨"Decryption failed. Invalid passphrase or corrupted data.", []⟩) := by
  obtain ⟨rfl, nonempty, text, rfl, textNonempty, decoded⟩ := presents
  exact decrypt_of_decode crypto textNonempty nonempty (salt_length _) (nonce_length _)
    envelope.tag_length decoded

theorem decrypt_of_malformed (malformed : ∀ presented envelope,
      ¬ Presents encryptedData passphrase presented envelope) :
    ∃ message paramName,
      decrypt crypto encryptedData passphrase = .error (.argument message paramName) := by
  unfold decrypt
  split
  next => exact ⟨_, _, rfl⟩
  next dataPresent =>
    split
    next => exact ⟨_, _, rfl⟩
    next passphrasePresent =>
      obtain ⟨text, rfl, textNonempty⟩ := Utf16.isNullOrEmpty_eq_false_iff.mp
        (Bool.not_eq_true _ ▸ dataPresent)
      obtain ⟨presented, rfl, nonempty⟩ := Utf16.isNullOrEmpty_eq_false_iff.mp
        (Bool.not_eq_true _ ▸ passphrasePresent)
      unfold openEnvelope
      simp only [Option.getD_some]
      cases decoded : Base64.decode text with
      | none => exact ⟨_, _, rfl⟩
      | some data =>
          have short : data.length < saltSize + nonceSize + tagSize := by
            by_contra long
            obtain ⟨envelope, rfl⟩ := Envelope.exists_bytes_eq (Nat.le_of_not_lt long)
            exact malformed presented envelope
              ⟨rfl, nonempty, text, rfl, textNonempty, decoded⟩
          simp only [bind, Except.bind, if_pos short]
          exact ⟨_, _, rfl⟩

inductive Decrypts (encryptedData passphrase : Option Utf16) :
    Except Exception Utf16 → Prop
  | opened {presented : Utf16} {envelope : Envelope} {plaintextBytes : List UInt8}
      (presents : Presents encryptedData passphrase presented envelope)
      (authentic : envelope.opened crypto presented = some plaintextBytes) :
      Decrypts encryptedData passphrase (.ok (Utf8.getString plaintextBytes))
  | refused {presented : Utf16} {envelope : Envelope}
      (presents : Presents encryptedData passphrase presented envelope)
      (forged : envelope.opened crypto presented = none) :
      Decrypts encryptedData passphrase (.error (.unauthorizedAccess
        ⟨"Decryption failed. Invalid passphrase or corrupted data.", []⟩))
  | malformed {message : Message} {paramName : Option String}
      (malformed : ∀ presented envelope,
        ¬ Presents encryptedData passphrase presented envelope) :
      Decrypts encryptedData passphrase (.error (.argument message paramName))

theorem decrypts (encryptedData passphrase : Option Utf16) :
    Decrypts crypto encryptedData passphrase (decrypt crypto encryptedData passphrase) := by
  by_cases present : ∃ presented envelope,
      Presents encryptedData passphrase presented envelope
  · obtain ⟨presented, envelope, presents⟩ := present
    rw [presents.decrypt_eq]
    cases opened : envelope.opened crypto presented with
    | none => exact .refused presents opened
    | some plaintextBytes => exact .opened presents opened
  · have malformed : ∀ presented envelope,
        ¬ Presents encryptedData passphrase presented envelope :=
      fun presented envelope presents => present ⟨presented, envelope, presents⟩
    obtain ⟨message, paramName, decrypted⟩ := decrypt_of_malformed crypto malformed
    rw [decrypted]
    exact .malformed malformed

end Classes

theorem decrypt_classifies_every_input (encryptedData passphrase : Option Utf16) :
    (∀ text, decrypt crypto encryptedData passphrase = .ok text ↔
      ∃ presented envelope plaintextBytes,
        Presents encryptedData passphrase presented envelope ∧
          envelope.opened crypto presented = some plaintextBytes ∧
          text = Utf8.getString plaintextBytes) ∧
    ((∃ message, decrypt crypto encryptedData passphrase =
        .error (.unauthorizedAccess message)) ↔
      ∃ presented envelope, Presents encryptedData passphrase presented envelope ∧
        envelope.opened crypto presented = none) ∧
    ((∃ message paramName, decrypt crypto encryptedData passphrase =
        .error (.argument message paramName)) ↔
      ∀ presented envelope, ¬ Presents encryptedData passphrase presented envelope) ∧
    (∀ exception, decrypt crypto encryptedData passphrase = .error exception →
      (∃ message, exception = .unauthorizedAccess message) ∨
        ∃ message paramName, exception = .argument message paramName) ∧
    (∀ data : List UInt8, 16 + 12 + 16 ≤ data.length →
      ∃ envelope : Envelope, data = envelope.bytes ∧
        Splits data envelope.salt.toList envelope.nonce.toList envelope.ciphertext
          envelope.tag.toList) ∧
    (∀ first second : Envelope, first.bytes = second.bytes → first = second) ∧
    ∀ first second : Envelope, first.bytes ≠ second.bytes →
      first.salt ≠ second.salt ∨ first.nonce ≠ second.nonce ∨
        first.ciphertext ≠ second.ciphertext ∨ first.tag ≠ second.tag := by
  have verdict := decrypts crypto encryptedData passphrase
  refine ⟨?_, ?_, ?_, ?_, ?_, fun _ _ => Envelope.bytes_injective,
    fun _ _ => Envelope.exists_part_ne⟩
  · intro text
    constructor
    · intro decrypted
      rw [decrypted] at verdict
      cases verdict with
      | opened presents authentic => exact ⟨_, _, _, presents, authentic, rfl⟩
    · intro ⟨presented, envelope, plaintextBytes, presents, authentic, same⟩
      rw [presents.decrypt_eq, authentic, same]
  · constructor
    · intro ⟨message, decrypted⟩
      rw [decrypted] at verdict
      cases verdict with
      | refused presents forged => exact ⟨_, _, presents, forged⟩
    · intro ⟨presented, envelope, presents, forged⟩
      rw [presents.decrypt_eq, forged]
      exact ⟨_, rfl⟩
  · constructor
    · intro ⟨message, paramName, decrypted⟩
      rw [decrypted] at verdict
      cases verdict with
      | malformed malformed => exact malformed
    · exact decrypt_of_malformed crypto
  · intro exception decrypted
    rw [decrypted] at verdict
    cases verdict with
    | refused => exact .inl ⟨_, rfl⟩
    | malformed => exact .inr ⟨_, _, rfl⟩
  · intro data long
    obtain ⟨envelope, rfl⟩ := Envelope.exists_bytes_eq long
    exact ⟨envelope, rfl, envelope.splits⟩

end EncryptionService

end SecretServer.Services
