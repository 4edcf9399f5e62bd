import SecretServer.Text.Utf16

namespace SecretServer.Text

namespace Utf8

/-! UTF-8 with replacement: every scalar value is written in its shortest form,
and reading turns each maximal ill-formed run into one U+FFFD. -/

def encode (chars : List Char) : List UInt8 :=
  chars.flatMap String.utf8EncodeChar

/-- The continuation bytes a leading byte asks for, each as its admitted range. -/
def continuations (lead : UInt8) : List (Nat × Nat) :=
  let value := lead.toNat
  if 0xC2 ≤ value ∧ value ≤ 0xDF then [(0x80, 0xBF)]
  else if value = 0xE0 then [(0xA0, 0xBF), (0x80, 0xBF)]
  else if value = 0xED then [(0x80, 0x9F), (0x80, 0xBF)]
  else if 0xE1 ≤ value ∧ value ≤ 0xEF then [(0x80, 0xBF), (0x80, 0xBF)]
  else if value = 0xF0 then [(0x90, 0xBF), (0x80, 0xBF), (0x80, 0xBF)]
  else if 0xF1 ≤ value ∧ value ≤ 0xF3 then [(0x80, 0xBF), (0x80, 0xBF), (0x80, 0xBF)]
  else if value = 0xF4 then [(0x80, 0x8F), (0x80, 0xBF), (0x80, 0xBF)]
  else []

def matched : List (Nat × Nat) → List UInt8 → Nat
  | (low, high) :: ranges, byte :: bytes =>
      if low ≤ byte.toNat ∧ byte.toNat ≤ high then matched ranges bytes + 1 else 0
  | _, _ => 0

/-- The first character of a non-empty byte sequence and the number of bytes
after the leading one that it takes up. -/
def decodeFirst (lead : UInt8) (rest : List UInt8) : Char × Nat :=
  match (lead :: rest).toByteArray.utf8DecodeChar? 0 with
  | some scalar => (scalar, scalar.utf8Size - 1)
  | none => (Utf16.replacement, matched (continuations lead) rest)

def decodeFrom : Nat → List UInt8 → List Char
  | _, [] => []
  | skip + 1, _ :: rest => decodeFrom skip rest
  | 0, lead :: rest =>
      (decodeFirst lead rest).1 :: decodeFrom (decodeFirst lead rest).2 rest

def decode (bytes : List UInt8) : List Char :=
  decodeFrom 0 bytes

/-- `Encoding.UTF8.GetBytes`: an unpaired surrogate is written as U+FFFD. -/
def getBytes (text : Utf16) : List UInt8 :=
  encode text.scalars

/-- `Encoding.UTF8.GetString`: a leading byte order mark is kept. -/
def getString (bytes : List UInt8) : Utf16 :=
  Utf16.encode (decode bytes)

theorem decodeFrom_eq_drop (skip : Nat) (bytes : List UInt8) :
    decodeFrom skip bytes = decode (bytes.drop skip) := by
  induction bytes generalizing skip with
  | nil => cases skip <;> rfl
  | cons lead rest induction =>
      cases skip with
      | zero => rfl
      | succ skip => simpa [decodeFrom] using induction skip

theorem decode_encodeChar_append (scalar : Char) (rest : List UInt8) :
    decode (String.utf8EncodeChar scalar ++ rest) = scalar :: decode rest := by
  have length := String.length_utf8EncodeChar scalar
  have positive := scalar.utf8Size_pos
  cases encoded : String.utf8EncodeChar scalar with
  | nil =>
      rw [encoded, List.length_nil] at length
      omega
  | cons lead tail =>
      have read : (lead :: (tail ++ rest)).toByteArray.utf8DecodeChar? 0 =
          some scalar := by
        rw [← List.cons_append, ← encoded, List.toByteArray_append]
        exact ByteArray.utf8DecodeChar?_utf8EncodeChar_append
      have size : scalar.utf8Size - 1 = tail.length := by
        rw [encoded, List.length_cons] at length
        omega
      have first : decodeFirst lead (tail ++ rest) = (scalar, tail.length) := by
        simp only [decodeFirst, read, size]
      rw [List.cons_append, decode, decodeFrom, first, decodeFrom_eq_drop,
        List.drop_left]

@[simp] theorem decode_encode (chars : List Char) :
    decode (encode chars) = chars := by
  induction chars with
  | nil => rfl
  | cons scalar chars induction =>
      rw [encode, List.flatMap_cons, decode_encodeChar_append]
      exact congrArg (List.cons scalar) induction

theorem encode_ne_nil {chars : List Char} (nonempty : chars ≠ []) :
    encode chars ≠ [] := by
  intro empty
  apply nonempty
  rw [← decode_encode chars, empty]
  rfl

theorem getString_getBytes (text : Utf16) :
    getString (getBytes text) = Utf16.encode text.scalars := by
  simp [getString, getBytes]

theorem getString_getBytes_of_wellFormed {text : Utf16}
    (formed : text.WellFormed) : getString (getBytes text) = text := by
  rw [getString_getBytes, formed.encode_scalars]

end Utf8

end SecretServer.Text
