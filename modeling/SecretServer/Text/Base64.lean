import SecretServer.Text.Utf16

namespace SecretServer.Text

namespace Base64

/-! Base64 over UTF-16 text.  Reading skips white space anywhere and does not
look at the bits that the padding leaves over. -/

def digit (sextet : Nat) : UInt16 :=
  if sextet < 26 then UInt16.ofNat (0x41 + sextet)
  else if sextet < 52 then UInt16.ofNat (0x61 + (sextet - 26))
  else if sextet < 62 then UInt16.ofNat (0x30 + (sextet - 52))
  else if sextet = 62 then 0x2B
  else 0x2F

def padding : UInt16 := 0x3D

def sextet? (unit : UInt16) : Option Nat :=
  let value := unit.toNat
  if 0x41 ≤ value ∧ value ≤ 0x5A then some (value - 0x41)
  else if 0x61 ≤ value ∧ value ≤ 0x7A then some (value - 0x61 + 26)
  else if 0x30 ≤ value ∧ value ≤ 0x39 then some (value - 0x30 + 52)
  else if value = 0x2B then some 62
  else if value = 0x2F then some 63
  else none

def isSkipped (unit : UInt16) : Bool :=
  unit == 0x9 || unit == 0xA || unit == 0xD || unit == 0x20

/-- `Convert.ToBase64String`. -/
def encode : List UInt8 → Utf16
  | [] => []
  | [a] =>
      [digit (a.toNat / 4), digit (a.toNat % 4 * 16), padding, padding]
  | [a, b] =>
      [digit (a.toNat / 4), digit (a.toNat % 4 * 16 + b.toNat / 16),
        digit (b.toNat % 16 * 4), padding]
  | a :: b :: c :: rest =>
      digit (a.toNat / 4) :: digit (a.toNat % 4 * 16 + b.toNat / 16) ::
        digit (b.toNat % 16 * 4 + c.toNat / 64) :: digit (c.toNat % 64) ::
          encode rest

def firstByte (w x : Nat) : UInt8 := UInt8.ofNat (w * 4 + x / 16)

def secondByte (x y : Nat) : UInt8 := UInt8.ofNat (x % 16 * 16 + y / 4)

def thirdByte (y z : Nat) : UInt8 := UInt8.ofNat (y % 4 * 64 + z)

def decodeLast (a b c d : UInt16) : Option (List UInt8) := do
  let w ← sextet? a
  let x ← sextet? b
  if d = padding then
    if c = padding then
      return [firstByte w x]
    else
      let y ← sextet? c
      return [firstByte w x, secondByte x y]
  else
    let y ← sextet? c
    let z ← sextet? d
    return [firstByte w x, secondByte x y, thirdByte y z]

def decodeGroups : Utf16 → Option (List UInt8)
  | [] => some []
  | [a, b, c, d] => decodeLast a b c d
  | a :: b :: c :: d :: rest => do
      let w ← sextet? a
      let x ← sextet? b
      let y ← sextet? c
      let z ← sextet? d
      let bytes ← decodeGroups rest
      return firstByte w x :: secondByte x y :: thirdByte y z :: bytes
  | _ => none

/-- `Convert.FromBase64String`, where `none` is its `FormatException`. -/
def decode (text : Utf16) : Option (List UInt8) :=
  decodeGroups (text.filter fun unit => !isSkipped unit)

theorem sextet?_digit {sextet : Nat} (bound : sextet < 64) :
    sextet? (digit sextet) = some sextet := by
  have holds : ∀ sextet : Fin 64, sextet? (digit sextet) = some sextet.val := by
    decide
  exact holds ⟨sextet, bound⟩

theorem isSkipped_digit {sextet : Nat} (bound : sextet < 64) :
    isSkipped (digit sextet) = false := by
  have holds : ∀ sextet : Fin 64, isSkipped (digit sextet) = false := by decide
  exact holds ⟨sextet, bound⟩

theorem digit_ne_padding {sextet : Nat} (bound : sextet < 64) :
    digit sextet ≠ padding := by
  have holds : ∀ sextet : Fin 64, digit sextet ≠ padding := by decide
  exact holds ⟨sextet, bound⟩

theorem firstByte_split (a b : UInt8) :
    firstByte (a.toNat / 4) (a.toNat % 4 * 16 + b.toNat / 16) = a := by
  have bound := b.toNat_lt
  have value : a.toNat / 4 * 4 + (a.toNat % 4 * 16 + b.toNat / 16) / 16 =
      a.toNat := by omega
  rw [firstByte, value, UInt8.ofNat_toNat]

theorem firstByte_split_last (a : UInt8) :
    firstByte (a.toNat / 4) (a.toNat % 4 * 16) = a := by
  have value : a.toNat / 4 * 4 + a.toNat % 4 * 16 / 16 = a.toNat := by omega
  rw [firstByte, value, UInt8.ofNat_toNat]

theorem secondByte_split (a b c : UInt8) :
    secondByte (a.toNat % 4 * 16 + b.toNat / 16)
      (b.toNat % 16 * 4 + c.toNat / 64) = b := by
  have boundB := b.toNat_lt
  have boundC := c.toNat_lt
  have value : (a.toNat % 4 * 16 + b.toNat / 16) % 16 * 16 +
      (b.toNat % 16 * 4 + c.toNat / 64) / 4 = b.toNat := by omega
  rw [secondByte, value, UInt8.ofNat_toNat]

theorem secondByte_split_last (a b : UInt8) :
    secondByte (a.toNat % 4 * 16 + b.toNat / 16) (b.toNat % 16 * 4) = b := by
  have bound := b.toNat_lt
  have value : (a.toNat % 4 * 16 + b.toNat / 16) % 16 * 16 +
      b.toNat % 16 * 4 / 4 = b.toNat := by omega
  rw [secondByte, value, UInt8.ofNat_toNat]

theorem thirdByte_split (b c : UInt8) :
    thirdByte (b.toNat % 16 * 4 + c.toNat / 64) (c.toNat % 64) = c := by
  have bound := c.toNat_lt
  have value : (b.toNat % 16 * 4 + c.toNat / 64) % 4 * 64 + c.toNat % 64 =
      c.toNat := by omega
  rw [thirdByte, value, UInt8.ofNat_toNat]

theorem high_lt (a : UInt8) : a.toNat / 4 < 64 := by
  have bound := a.toNat_lt
  omega

theorem middle_lt (a b : UInt8) : a.toNat % 4 * 16 + b.toNat / 16 < 64 := by
  have bound := b.toNat_lt
  omega

theorem low_lt (b c : UInt8) : b.toNat % 16 * 4 + c.toNat / 64 < 64 := by
  have bound := c.toNat_lt
  omega

theorem middle_last_lt (a : UInt8) : a.toNat % 4 * 16 < 64 := by omega

theorem low_last_lt (b : UInt8) : b.toNat % 16 * 4 < 64 := by omega

theorem rest_lt (c : UInt8) : c.toNat % 64 < 64 := by omega

theorem filter_encode (bytes : List UInt8) :
    (encode bytes).filter (fun unit => !isSkipped unit) = encode bytes := by
  have skipped : isSkipped padding = false := by decide
  induction bytes using encode.induct with
  | case1 => rfl
  | case2 a =>
      simp [encode, skipped, isSkipped_digit (high_lt a),
        isSkipped_digit (middle_last_lt a)]
  | case3 a b =>
      simp [encode, skipped, isSkipped_digit (high_lt a),
        isSkipped_digit (middle_lt a b), isSkipped_digit (low_last_lt b)]
  | case4 a b c rest induction =>
      simp [encode, induction, isSkipped_digit (high_lt a),
        isSkipped_digit (middle_lt a b), isSkipped_digit (low_lt b c),
        isSkipped_digit (rest_lt c)]

theorem decodeLast_full {w x y z : Nat} (hw : w < 64) (hx : x < 64)
    (hy : y < 64) (hz : z < 64) :
    decodeLast (digit w) (digit x) (digit y) (digit z) =
      some [firstByte w x, secondByte x y, thirdByte y z] := by
  simp [decodeLast, sextet?_digit, digit_ne_padding, hw, hx, hy, hz]

theorem decodeGroups_cons {w x y z : Nat} (hw : w < 64) (hx : x < 64)
    (hy : y < 64) (hz : z < 64) {rest : Utf16} {bytes : List UInt8}
    (decoded : decodeGroups rest = some bytes) :
    decodeGroups (digit w :: digit x :: digit y :: digit z :: rest) =
      some (firstByte w x :: secondByte x y :: thirdByte y z :: bytes) := by
  cases rest with
  | nil =>
      obtain rfl : [] = bytes := Option.some.inj decoded
      exact decodeLast_full hw hx hy hz
  | cons unit rest =>
      simp [decodeGroups, sextet?_digit, hw, hx, hy, hz, decoded]

theorem decodeGroups_encode (bytes : List UInt8) :
    decodeGroups (encode bytes) = some bytes := by
  induction bytes using encode.induct with
  | case1 => rfl
  | case2 a =>
      simp [encode, decodeGroups, decodeLast, sextet?_digit (high_lt a),
        sextet?_digit (middle_last_lt a), firstByte_split_last]
  | case3 a b =>
      simp [encode, decodeGroups, decodeLast, sextet?_digit (high_lt a),
        sextet?_digit (middle_lt a b), sextet?_digit (low_last_lt b),
        digit_ne_padding (low_last_lt b), firstByte_split,
        secondByte_split_last]
  | case4 a b c rest induction =>
      rw [encode, decodeGroups_cons (high_lt a) (middle_lt a b) (low_lt b c)
        (rest_lt c) induction, firstByte_split, secondByte_split,
        thirdByte_split]

@[simp] theorem decode_encode (bytes : List UInt8) :
    decode (encode bytes) = some bytes := by
  rw [decode, filter_encode, decodeGroups_encode]

theorem encode_ne_nil {bytes : List UInt8} (nonempty : bytes ≠ []) :
    encode bytes ≠ [] := by
  intro empty
  apply nonempty
  have decoded := decode_encode bytes
  rw [empty] at decoded
  exact (Option.some.inj decoded).symm

end Base64

end SecretServer.Text
