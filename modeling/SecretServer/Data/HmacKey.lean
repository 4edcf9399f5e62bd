import Mathlib.Data.List.Basic

namespace SecretServer.Data

namespace HmacKey

/-! How HMAC brings a key of any length to the size of one block: a longer key gives way
to its hash, and zeros fill up what is missing. -/

def blockSize : Nat := 64

def hashSize : Nat := 32

abbrev Hash := List UInt8 → Vector UInt8 hashSize

def hashedKey (hash : Hash) (key : List UInt8) : List UInt8 :=
  if key.length ≤ blockSize then key else (hash key).toList

def preparedKey (hash : Hash) (key : List UInt8) : List UInt8 :=
  hashedKey hash key ++ List.replicate (blockSize - (hashedKey hash key).length) 0

variable {hash : Hash} {first second key : List UInt8}

/-- Two keys that differ in zeros at their ends. -/
def SameUpToZeros (first second : List UInt8) : Prop :=
  ∃ firstZeros secondZeros,
    first ++ List.replicate firstZeros 0 = second ++ List.replicate secondZeros 0

theorem length_hashedKey_le (hash : Hash) (key : List UInt8) :
    (hashedKey hash key).length ≤ blockSize := by
  unfold hashedKey
  split
  next short => exact short
  next =>
    rw [Vector.length_toList]
    decide

theorem take_append_zeros (bound : key.length ≤ blockSize) (zeros : Nat) :
    (key ++ List.replicate (zeros + blockSize) 0).take blockSize =
      key ++ List.replicate (blockSize - key.length) 0 := by
  rw [List.take_append, List.take_of_length_le bound, List.take_replicate]
  congr 2
  omega

theorem preparedKey_eq_iff :
    preparedKey hash first = preparedKey hash second ↔
      SameUpToZeros (hashedKey hash first) (hashedKey hash second) := by
  constructor
  · intro same
    exact ⟨_, _, same⟩
  · intro ⟨firstZeros, secondZeros, same⟩
    have extended := congrArg
      (fun bytes => (bytes ++ List.replicate blockSize 0).take blockSize) same
    simp only [List.append_assoc, List.replicate_append_replicate] at extended
    rwa [take_append_zeros (length_hashedKey_le hash first),
      take_append_zeros (length_hashedKey_le hash second)] at extended

theorem preparedKey_eq_iff_of_short (firstShort : first.length ≤ blockSize)
    (secondShort : second.length ≤ blockSize) :
    preparedKey hash first = preparedKey hash second ↔ SameUpToZeros first second := by
  rw [preparedKey_eq_iff, hashedKey, hashedKey, if_pos firstShort, if_pos secondShort]

end HmacKey

end SecretServer.Data
