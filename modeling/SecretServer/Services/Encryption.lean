import SecretServer.Core.Basic
import SecretServer.Data.Buffer
import SecretServer.Text.Base64
import SecretServer.Text.Utf8

namespace SecretServer.Services

open Text Data

/-! `EncryptionService`: a passphrase is stretched to a key, the text is sealed with
AES-GCM, and salt, nonce, ciphertext and tag are packed into one Base64 string. -/

/-- The primitives of `System.Security.Cryptography`.  `decrypt` gives `none` where
`AesGcm.Decrypt` throws a `CryptographicException`. -/
structure Crypto (Key : Type) where
  pbkdf2 : (password salt : List UInt8) → (iterations keySize : Nat) → Key
  encrypt : Key → (nonce plaintext : List UInt8) → List UInt8 × List UInt8
  decrypt : Key → (nonce ciphertext tag : List UInt8) → Option (List UInt8)

namespace EncryptionService

def keySize : Nat := 32

def nonceSize : Nat := 12

def tagSize : Nat := 16

def saltSize : Nat := 16

def iterations : Nat := 100000

end EncryptionService

open EncryptionService

/-- What the code relies on: a ciphertext as long as its plaintext, a tag of the
size asked for, and decryption that undoes encryption. -/
structure Crypto.Lawful {Key : Type} (crypto : Crypto Key) : Prop where
  ciphertext_length : ∀ key nonce plaintext,
    (crypto.encrypt key nonce plaintext).1.length = plaintext.length
  tag_length : ∀ key nonce plaintext,
    (crypto.encrypt key nonce plaintext).2.length = tagSize
  decrypt_encrypt : ∀ key nonce plaintext,
    crypto.decrypt key nonce (crypto.encrypt key nonce plaintext).1
      (crypto.encrypt key nonce plaintext).2 = some plaintext

namespace EncryptionService

variable {Key : Type} (crypto : Crypto Key)

abbrev Salt := Vector UInt8 saltSize

abbrev Nonce := Vector UInt8 nonceSize

def deriveKey (passphrase : Utf16) (salt : List UInt8) : Key :=
  crypto.pbkdf2 (Utf8.getBytes passphrase) salt iterations keySize

def newBytes (length : Int) : Except Exception (List UInt8) :=
  match Buffer.allocate 0 length with
  | some bytes => .ok bytes
  | none => .error .overflow

def blockCopy (source : List UInt8) (sourceOffset : Nat) (target : List UInt8)
    (targetOffset count : Nat) : Except Exception (List UInt8) :=
  match Buffer.blockCopy source sourceOffset target targetOffset count with
  | some bytes => .ok bytes
  | none => .error (.argument ⟨"Offset and length were out of bounds.", []⟩ none)

def combine (salt nonce ciphertext tag : List UInt8) :
    Except Exception (List UInt8) := do
  let result ← newBytes (saltSize + nonceSize + ciphertext.length + tagSize : Nat)
  let result ← blockCopy salt 0 result 0 saltSize
  let result ← blockCopy nonce 0 result saltSize nonceSize
  let result ← blockCopy ciphertext 0 result (saltSize + nonceSize) ciphertext.length
  blockCopy tag 0 result (saltSize + nonceSize + ciphertext.length) tagSize

def encryptChecked (plaintext passphrase : Utf16) (salt : Salt) (nonce : Nonce) :
    Except Exception Utf16 := do
  let key := deriveKey crypto passphrase salt.toList
  let plaintextBytes := Utf8.getBytes plaintext
  let sealedBytes := crypto.encrypt key nonce.toList plaintextBytes
  let result ← combine salt.toList nonce.toList sealedBytes.1 sealedBytes.2
  return Base64.encode result

def encrypt (plaintext passphrase : Option Utf16) (salt : Salt) (nonce : Nonce) :
    Except Exception Utf16 :=
  if Utf16.isNullOrEmpty plaintext then
    .error (.argument ⟨"Plaintext cannot be null or empty", []⟩ (some "plaintext"))
  else if Utf16.isNullOrEmpty passphrase then
    .error (.argument ⟨"Passphrase cannot be null or empty", []⟩ (some "passphrase"))
  else
    encryptChecked crypto (plaintext.getD []) (passphrase.getD []) salt nonce

/-- The body of the `try` of `Decrypt`. -/
def openEnvelope (encryptedData passphrase : Utf16) : Except Exception Utf16 := do
  let data ← match Base64.decode encryptedData with
    | some data => Except.ok data
    | none => .error .format
  if data.length < saltSize + nonceSize + tagSize then
    .error (.argument ⟨"Invalid encrypted data format", []⟩ none)
  else
    let salt ← newBytes saltSize
    let nonce ← newBytes nonceSize
    let ciphertext ← newBytes ((data.length : Int) - saltSize - nonceSize - tagSize)
    let tag ← newBytes tagSize
    let salt ← blockCopy data 0 salt 0 saltSize
    let nonce ← blockCopy data saltSize nonce 0 nonceSize
    let ciphertext ←
      blockCopy data (saltSize + nonceSize) ciphertext 0 ciphertext.length
    let tag ←
      blockCopy data (saltSize + nonceSize + ciphertext.length) tag 0 tagSize
    let key := deriveKey crypto passphrase salt
    match crypto.decrypt key nonce ciphertext tag with
    | some plaintextBytes => return Utf8.getString plaintextBytes
    | none => .error .cryptographic

/-- The two `catch` clauses of `Decrypt`. -/
def translate (result : Except Exception Utf16) : Except Exception Utf16 :=
  match result with
  | .error .cryptographic =>
      .error (.unauthorizedAccess
        ⟨"Decryption failed. Invalid passphrase or corrupted data.", []⟩)
  | .error .format => .error (.argument ⟨"Invalid encrypted data format", []⟩ none)
  | result => result

def decrypt (encryptedData passphrase : Option Utf16) : Except Exception Utf16 :=
  if Utf16.isNullOrEmpty encryptedData then
    .error (.argument ⟨"Encrypted data cannot be null or empty", []⟩
      (some "encryptedData"))
  else if Utf16.isNullOrEmpty passphrase then
    .error (.argument ⟨"Passphrase cannot be null or empty", []⟩ (some "passphrase"))
  else
    translate (openEnvelope crypto (encryptedData.getD []) (passphrase.getD []))

end EncryptionService

end SecretServer.Services
